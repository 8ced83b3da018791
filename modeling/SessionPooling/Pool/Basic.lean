import SessionPooling.Pool.Bursty
import SessionPooling.Pool.Fixed
import SessionPooling.Pool.TransactionPinging

/-! Pools of any kind, behind the operations that all of them have. -/
namespace SessionPooling

inductive Pool where
  | fixed (pool : FixedPool)
  | bursty (pool : BurstyPool)
  | pinging (pool : PingingPool)
  | transactionPinging (pool : TransactionPingingPool)
deriving DecidableEq

namespace Pool

def desk : Pool → Desk
  | fixed pool => pool.desk
  | bursty pool => pool.desk
  | pinging pool => pool.desk
  | transactionPinging pool => pool.inner.desk

def stats : Pool → PoolStats
  | fixed pool => pool.stats
  | bursty pool => pool.stats
  | pinging pool => pool.stats
  | transactionPinging pool => pool.stats

/-- Every session in the pool: those that can be taken, in the order in which they would
be, and then those that wait for more. -/
def sessions : Pool → List Session
  | fixed pool => pool.stored
  | bursty pool => pool.stored
  | pinging pool => pool.queue.sessions
  | transactionPinging pool => pool.inner.queue.sessions ++ pool.pending

/-- How long a caller without a limit of its own waits for a session; a bursty pool never
makes it wait. -/
def patience : Pool → Option Duration
  | fixed pool => some pool.defaultTimeout
  | bursty _ => none
  | pinging pool => some pool.defaultTimeout
  | transactionPinging pool => some pool.inner.defaultTimeout

/-- How long a caller waits if nothing comes back meanwhile. -/
def waitingTime (pool : Pool) (timeout : Option Duration) : Duration :=
  match pool.patience with
  | none => .zero
  | some patience => if pool.stats.available = 0 then timeout.getD patience else .zero

variable {σ : Type} [Service σ]

def bind (pool : Pool) (backend : BackendId) : Act σ (Except Failure Unit × Pool) :=
  match pool with
  | fixed pool => do
    let (done, pool) ← pool.bind backend
    pure (done, .fixed pool)
  | bursty pool => pure (.ok (), .bursty (pool.bind backend))
  | pinging pool => do
    let (done, pool) ← pool.bind backend
    pure (done, .pinging pool)
  | transactionPinging pool => do
    let (done, pool) ← pool.bind backend
    pure (done, .transactionPinging pool)

/-- Takes a session, or fails as it does after the waiting time. -/
def take (pool : Pool) (timeout : Option Duration) : Act σ (Except Failure Session × Pool) :=
  match pool with
  | fixed pool => do
    let (got, pool) ← pool.get timeout
    pure (got, .fixed pool)
  | bursty pool => do
    let (got, pool) ← pool.get
    pure (got, .bursty pool)
  | pinging pool => do
    let (got, pool) ← pool.get timeout
    pure (got, .pinging pool)
  | transactionPinging pool => do
    let (got, pool) ← pool.get timeout
    pure (got, .transactionPinging pool)

def get (pool : Pool) (timeout : Option Duration) : Act σ (Except Failure Session × Pool) := do
  Act.wait (pool.waitingTime timeout)
  pool.take timeout

def put (pool : Pool) (session : Session) : Act σ (Except Failure Unit × Pool) :=
  match pool with
  | fixed pool =>
    let (done, pool) := pool.put session
    pure (done, .fixed pool)
  | bursty pool => do
    let (done, pool) ← pool.put session
    pure (done, .bursty pool)
  | pinging pool => do
    let (done, pool) ← pool.put session
    pure (done, .pinging pool)
  | transactionPinging pool => do
    let (done, pool) ← pool.put session
    pure (done, .transactionPinging pool)

def clear (pool : Pool) : Act σ (Except Failure Unit × Pool) :=
  match pool with
  | fixed pool => do
    let (done, pool) ← pool.clear
    pure (done, .fixed pool)
  | bursty pool => do
    let (done, pool) ← pool.clear
    pure (done, .bursty pool)
  | pinging pool => do
    let (done, pool) ← pool.clear
    pure (done, .pinging pool)
  | transactionPinging pool => do
    let (done, pool) ← pool.clear
    pure (done, .transactionPinging pool)

/-- Refreshes at most one session. Pools that are never pinged have none that is due. -/
def ping (pool : Pool) : Act σ (Except Failure Bool × Pool) :=
  match pool with
  | pinging pool => do
    let (done, pool) ← pool.ping
    pure (done, .pinging pool)
  | transactionPinging pool => do
    let (done, pool) ← pool.ping
    pure (done, .transactionPinging pool)
  | other => pure (.ok false, other)

def pingAllDue (pool : Pool) : Act σ (Except Failure Nat × Pool) :=
  match pool with
  | pinging pool => do
    let (done, pool) ← pool.pingAllDue
    pure (done, .pinging pool)
  | transactionPinging pool => do
    let (done, pool) ← pool.pingAllDue
    pure (done, .transactionPinging pool)
  | other => pure (.ok 0, other)

/-- Flushes the waiting sessions into the queue, where a pool has both. -/
def beginPending (pool : Pool) : Act σ (Except Failure Nat × Pool) :=
  match pool with
  | transactionPinging pool => do
    let (done, pool) ← pool.beginPending
    pure (done, .transactionPinging pool)
  | other => pure (.ok 0, other)

/-- Refreshes what is due, round after round, each after the same time of waiting. A round
that fails is reported elsewhere and does not end the rounds. -/
def pingInRounds (interval : Duration) (pool : Pool) : (rounds : Nat) → Act σ Pool
  | 0 => pure pool
  | rounds + 1 => do
    Act.wait interval
    let (_, pool) ← pool.pingAllDue
    pingInRounds interval pool rounds

end Pool
end SessionPooling
