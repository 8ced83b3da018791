import SessionPooling.Failure
import SessionPooling.Template

/-! Settings of a pool, with the defaults that hold for every field left out. -/
namespace SessionPooling

inductive PoolKind where
  /-- A stack of fixed size, filled when the pool is bound. -/
  | fixed
  /-- A stack that grows on demand. -/
  | bursty
  /-- A queue in the order in which its sessions fall due for a ping. -/
  | pinging
  /-- A queue as above, whose returned sessions first get a fresh transaction. -/
  | transactionPinging
deriving DecidableEq

namespace PoolKind

/-- The name in settings and in statistics. -/
def label : PoolKind → String
  | fixed => "fixed"
  | bursty => "bursty"
  | pinging => "pinging"
  | transactionPinging => "transaction_pinging"

/-- The spelling in diagnostic texts. -/
def name : PoolKind → String
  | fixed => "Fixed"
  | bursty => "Bursty"
  | pinging => "Pinging"
  | transactionPinging => "TransactionPinging"

def all : List PoolKind := [fixed, bursty, pinging, transactionPinging]

end PoolKind

structure PoolConfig where
  kind : PoolKind
  /-- How many sessions the pool holds; for a bursty pool, how many it keeps idle. -/
  size : Nat
  defaultTimeoutSecs : Nat
  maxAgeMinutes : Nat
  pingIntervalSecs : Nat
  role : Option String
  labels : Labels
deriving DecidableEq

namespace PoolConfig

def standard : PoolConfig where
  kind := .fixed
  size := 10
  defaultTimeoutSecs := 10
  maxAgeMinutes := 55
  pingIntervalSecs := 3000
  role := none
  labels := .empty

def defaultTimeout (config : PoolConfig) : Duration := .ofSeconds config.defaultTimeoutSecs

/-- The number of seconds stays within sixty-four bits. -/
def maxAge (config : PoolConfig) : Duration := .ofSeconds (min (config.maxAgeMinutes * 60) maxWord)

def pingInterval (config : PoolConfig) : Duration := .ofSeconds config.pingIntervalSecs

def template (config : PoolConfig) : Template := ⟨config.labels, config.role⟩

def validate (config : PoolConfig) : Except ConfigProblem Unit :=
  if config.size = 0 then .error .emptyPool else .ok ()

end PoolConfig
end SessionPooling
