import SessionPooling.Pool.Desk
import SessionPooling.Pool.PingQueue
import SessionPooling.Pool.Stats

/-! A pool that keeps its idle sessions alive. Sessions wait in the order in which they
fall due for a ping; a ping, which someone has to call from time to time, refreshes one
session that is due and stores it again behind the others. Taking a session probes it only
when it is overdue, so one that went away since its last refresh is handed out unnoticed. -/
namespace SessionPooling

/-- A pool that keeps at most `size` sessions in a queue by due time. -/
structure PingingPool where
  desk : Desk
  size : Nat
  defaultTimeout : Duration
  /-- How long after it is stored a session falls due. -/
  pingInterval : Duration
  queue : PingQueue
  /-- How many entries there have been: a number without bound, where a counter of fixed width
  would wrap around. -/
  nextSequence : Nat
deriving DecidableEq

namespace PingingPool

def ofSize (size : Nat) : PingingPool where
  desk := .opened .pinging
  size
  defaultTimeout := PoolConfig.standard.defaultTimeout
  pingInterval := PoolConfig.standard.pingInterval
  queue := .empty
  nextSequence := 0

def stats (pool : PingingPool) : PoolStats :=
  ⟨pool.desk.kind, pool.size, pool.queue.size, pool.desk.checkedOut⟩

/-- Stores a session at the given time, if there is room. -/
def enqueueAt (now : Instant) (session : Session) (pool : PingingPool) :
    Except Failure PingingPool :=
  if pool.size ≤ pool.queue.size then .error (.poolFull pool.size)
  else
    let entry := ⟨now.after pool.pingInterval, pool.nextSequence, session⟩
    .ok { pool with queue := pool.queue.insert entry, nextSequence := pool.nextSequence + 1 }

def requeue (pool : PingingPool) (entry : PingEntry) : PingingPool :=
  { pool with queue := pool.queue.insert entry }

def pop? (pool : PingingPool) : Option (Session × PingingPool) :=
  pool.queue.pop?.map fun (entry, queue) => (entry.session, { pool with queue })

variable {σ : Type}

def enqueue (session : Session) (pool : PingingPool) : Act σ (Except Failure PingingPool) := do
  let now ← Act.now
  pure (pool.enqueueAt now session)

variable [Service σ]

/-- Binds the pool to a service and fills it, but for `reserved` places. -/
def bindReserving (pool : PingingPool) (backend : BackendId) (reserved : Nat) :
    Act σ (Except Failure Unit × PingingPool) :=
  let pool := { pool with desk := pool.desk.bind backend }
  pool.desk.provision enqueue (pool.size - (pool.queue.size + reserved)) pool

def bind (pool : PingingPool) (backend : BackendId) :
    Act σ (Except Failure Unit × PingingPool) :=
  pool.bindReserving backend 0

def handOut (pool : PingingPool) (session : Session) :
    Act σ (Except Failure Session × PingingPool) := do
  pool.desk.reportAcquired session
  pure (.ok (session.setInUse true), { pool with desk := pool.desk.countOut })

def handOutReplacement (pool : PingingPool) (stale : Session) :
    Act σ (Except Failure Session × PingingPool) := do
  match ← pool.desk.replace stale with
  | .error e => pure (.error e, pool)
  | .ok session => pool.handOut session

/-- Takes the session that falls due first. On an empty queue nothing becomes free, however
long one waits. -/
def get (pool : PingingPool) (timeout : Option Duration) :
    Act σ (Except Failure Session × PingingPool) :=
  match pool.queue.pop? with
  | none => pure (.error (.poolExhausted (timeout.getD pool.defaultTimeout)), pool)
  | some (entry, queue) => do
    let taken := { pool with queue }
    let now ← Act.now
    if entry.due < now then
      match ← entry.session.exists? with
      | .ok true => taken.handOut entry.session
      | .ok false => taken.handOutReplacement entry.session
      | .error e =>
        if e.isNotFound then taken.handOutReplacement entry.session
        else pure (.error e, taken.requeue entry)
    else taken.handOut entry.session

/-- Returns a session, which is lost if there is no room for it. -/
def put (pool : PingingPool) (session : Session) :
    Act σ (Except Failure Unit × PingingPool) := do
  let pool := { pool with desk := pool.desk.countIn }
  match ← pool.enqueue (session.setInUse false) with
  | .ok pool => pure (.ok (), pool)
  | .error e => pure (.error e, pool)

def clear (pool : PingingPool) : Act σ (Except Failure Unit × PingingPool) :=
  pool.desk.clear pop? pool.queue.size pool

/-- Stores a session that was just pinged or created for a ping. -/
def storeRefreshed (pool : PingingPool) (session : Session) :
    Act σ (Except Failure Bool × PingingPool) := do
  Act.report (pool.desk.sessionEntry .debug "Refreshed session" session [])
  match ← pool.enqueue session with
  | .ok pool => pure (.ok true, pool)
  | .error e => pure (.error e, pool)

/-- Refreshes the session that falls due first, if it is due. The result says whether one
was refreshed. -/
def ping (pool : PingingPool) : Act σ (Except Failure Bool × PingingPool) :=
  match pool.queue.pop? with
  | none => pure (.ok false, pool)
  | some (entry, queue) => do
    let taken := { pool with queue }
    let now ← Act.now
    if now < entry.due then pure (.ok false, taken.requeue entry)
    else
      match ← entry.session.ping with
      | .ok session => taken.storeRefreshed session
      | .error e =>
        if e.isNotFound then do
          match ← taken.desk.replace entry.session with
          | .error e => pure (.error e, taken)
          | .ok session => taken.storeRefreshed session
        else pure (.error e, taken.requeue entry)

/-- Refreshes sessions until none is due, one fails, or `rounds` are over. -/
def pingRounds : (rounds refreshed : Nat) → PingingPool →
    Act σ (Except Failure Nat × PingingPool)
  | 0, refreshed, pool => pure (.ok refreshed, pool)
  | rounds + 1, refreshed, pool => do
    match ← pool.ping with
    | (.error e, pool) => pure (.error e, pool)
    | (.ok false, pool) => pure (.ok refreshed, pool)
    | (.ok true, pool) => pingRounds rounds (refreshed + 1) pool

/-- Refreshes every session that is due, at most as many as the pool has places. -/
def pingAllDue (pool : PingingPool) : Act σ (Except Failure Nat × PingingPool) :=
  pingRounds pool.size 0 pool

end PingingPool
end SessionPooling
