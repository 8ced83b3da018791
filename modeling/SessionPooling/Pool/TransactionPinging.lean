import SessionPooling.Pool.Pinging

/-! A pinging pool that readies a transaction for each returned session. A session that
comes back without a transaction that can still be used gets a fresh one and waits in a
second queue, first in, first out, until that queue is flushed into the first. -/
namespace SessionPooling

/-- A pinging pool and the sessions that wait to enter its queue. -/
structure TransactionPingingPool where
  inner : PingingPool
  /-- The waiting sessions, the one returned first in front. -/
  pending : List Session
deriving DecidableEq

namespace TransactionPingingPool

def ofSize (size : Nat) : TransactionPingingPool where
  inner := { PingingPool.ofSize size with desk := .opened .transactionPinging }
  pending := []

def notice : LogEntry :=
  ⟨.warn, Desk.logTarget,
    "TransactionPingingPool is deprecated, use PingingPool and begin transactions on demand", []⟩

def stats (pool : TransactionPingingPool) : PoolStats := pool.inner.stats

/-- Whether a session comes back without a transaction that can still be used. -/
def needsTransaction (session : Session) : Bool :=
  match session.transaction with
  | none => true
  | some transaction => transaction.isFinished

variable {σ : Type} [Service σ]

/-- Moves waiting sessions into the queue, up to the first that it refuses. -/
def flush : List Session → Nat → PingingPool → Act σ (Except Failure Nat × TransactionPingingPool)
  | [], moved, inner => pure (.ok moved, ⟨inner, []⟩)
  | session :: rest, moved, inner => do
    match ← inner.enqueue session with
    | .error e => pure (.error e, ⟨inner, rest⟩)
    | .ok inner => flush rest (moved + 1) inner

/-- Moves every waiting session into the queue. The result is how many there were. -/
def beginPending (pool : TransactionPingingPool) :
    Act σ (Except Failure Nat × TransactionPingingPool) := do
  match ← flush pool.pending 0 pool.inner with
  | (.error e, pool) => pure (.error e, pool)
  | (.ok moved, pool) => do
    if moved = 0 then pure (.ok moved, pool)
    else do
      Act.report
        (pool.inner.desk.entry .debug "Flushed pending sessions" [("moved", .number moved)])
      pure (.ok moved, pool)

def bind (pool : TransactionPingingPool) (backend : BackendId) :
    Act σ (Except Failure Unit × TransactionPingingPool) := do
  match ← pool.inner.bindReserving backend pool.pending.length with
  | (.error e, inner) => pure (.error e, { pool with inner })
  | (.ok _, inner) => do
    let (moved, pool) ← { pool with inner }.beginPending
    pure (moved.map fun _ => (), pool)

def get (pool : TransactionPingingPool) (timeout : Option Duration) :
    Act σ (Except Failure Session × TransactionPingingPool) := do
  let (got, inner) ← pool.inner.get timeout
  pure (got, { pool with inner })

/-- Returns a session. When both queues together are full it is lost, and still counts as
being out. -/
def put (pool : TransactionPingingPool) (session : Session) :
    Act σ (Except Failure Unit × TransactionPingingPool) :=
  if pool.inner.size ≤ pool.inner.queue.size + pool.pending.length then
    pure (.error (.poolFull pool.inner.size), pool)
  else if needsTransaction session then
    let inner := { pool.inner with desk := pool.inner.desk.countIn }
    match (session.setInUse false).newTransaction with
    | .error e => pure (.error e, { pool with inner })
    | .ok session => pure (.ok (), ⟨inner, pool.pending ++ [session]⟩)
  else do
    let (done, inner) ← pool.inner.put session
    pure (done, { pool with inner })

def popPending? : List Session → Option (Session × List Session)
  | [] => none
  | session :: rest => some (session, rest)

/-- The result of two steps that are both carried out. -/
def both (first second : Except Failure Unit) : Except Failure Unit :=
  match first with
  | .error e => .error e
  | .ok () => second

/-- Deletes every stored session, those of the queue first. -/
def clear (pool : TransactionPingingPool) :
    Act σ (Except Failure Unit × TransactionPingingPool) := do
  let (queued, inner) ← pool.inner.clear
  let (waiting, pending) ← inner.desk.drain popPending? pool.pending.length pool.pending
  pure (both queued (waiting.map fun _ => ()), ⟨inner, pending⟩)

def ping (pool : TransactionPingingPool) :
    Act σ (Except Failure Bool × TransactionPingingPool) := do
  let (done, inner) ← pool.inner.ping
  pure (done, { pool with inner })

def pingAllDue (pool : TransactionPingingPool) :
    Act σ (Except Failure Nat × TransactionPingingPool) := do
  let (done, inner) ← pool.inner.pingAllDue
  pure (done, { pool with inner })

end TransactionPingingPool
end SessionPooling
