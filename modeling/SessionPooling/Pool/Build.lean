import SessionPooling.Outcome
import SessionPooling.Pool.Basic

/-! Making pools: from settings, or part by part. A pool that keeps room for all its
sessions from the start cannot be made when the room would pass what can be addressed. -/
namespace SessionPooling

/-- The room that a new pool keeps for each of its sessions, in bytes. A stack has room for
the session alone, a queue also for its due time and number, and a bursty pool, whose stack
grows when it has to, keeps none. -/
def placeSize : PoolKind → Nat
  | .fixed => 240
  | .bursty => 0
  | .pinging => 264
  | .transactionPinging => 264

/-- The most bytes that can be kept in one piece. -/
def largestPiece : Nat := 9223372036854775807

def hasRoomFor (kind : PoolKind) (size : Nat) : Bool :=
  decide (size * placeSize kind ≤ largestPiece)

structure PoolParts where
  kind : PoolKind
  size : Option Nat
  defaultTimeout : Option Duration
  maxAge : Option Duration
  pingInterval : Option Duration
  template : Option Template
  labels : Option Labels
  role : Option String

namespace PoolParts

def ofConfig (config : PoolConfig) : PoolParts where
  kind := config.kind
  size := some config.size
  defaultTimeout := some config.defaultTimeout
  maxAge := some config.maxAge
  pingInterval := some config.pingInterval
  template := some config.template
  labels := none
  role := none

/-- What a new pool asks for: a whole template first, then labels and role of their own. -/
def resolvedTemplate (parts : PoolParts) : Template :=
  let base := parts.template.getD .empty
  ⟨parts.labels.getD base.labels, parts.role <|> base.role⟩

def desk (parts : PoolParts) : Desk :=
  { Desk.opened parts.kind with template := parts.resolvedTemplate }

def pingingPool (parts : PoolParts) (size : Nat) : PingingPool :=
  let base := PingingPool.ofSize size
  { base with
    desk := parts.desk
    defaultTimeout := parts.defaultTimeout.getD base.defaultTimeout
    pingInterval := parts.pingInterval.getD base.pingInterval }

def pool (parts : PoolParts) : Pool :=
  let size := parts.size.getD PoolConfig.standard.size
  match parts.kind with
  | .fixed =>
    let base := FixedPool.ofSize size
    .fixed
      { base with
        desk := parts.desk
        defaultTimeout := parts.defaultTimeout.getD base.defaultTimeout
        maxAge := parts.maxAge.getD base.maxAge }
  | .bursty => .bursty { BurstyPool.ofSize size with desk := parts.desk }
  | .pinging => .pinging (parts.pingingPool size)
  | .transactionPinging => .transactionPinging ⟨parts.pingingPool size, []⟩

def notices (parts : PoolParts) : List LogEntry :=
  match parts.kind with
  | .transactionPinging => [TransactionPingingPool.notice]
  | _ => []

def build (parts : PoolParts) : Outcome Pool :=
  if hasRoomFor parts.kind (parts.size.getD PoolConfig.standard.size) then .ok parts.pool
  else .panic

end PoolParts

namespace Pool

/-- Makes the pool that settings describe, after judging them. It is not bound yet. -/
def ofConfig (config : PoolConfig) : Outcome Pool :=
  match config.validate with
  | .error cause => .error (.config cause)
  | .ok () => (PoolParts.ofConfig config).build

def standard (kind : PoolKind) : Pool :=
  { kind, size := none, defaultTimeout := none, maxAge := none, pingInterval := none,
    template := none, labels := none, role := none : PoolParts }.pool

end Pool
end SessionPooling
