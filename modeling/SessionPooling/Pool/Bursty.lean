import SessionPooling.Pool.Desk
import SessionPooling.Pool.Stats

/-! A pool that never makes its callers wait: when its stack is empty it creates a session.
Returned sessions are kept up to a target number and deleted beyond it. Every session is
probed before it is handed out again. -/
namespace SessionPooling

/-- A pool that keeps at most `targetSize` idle sessions and creates the rest on demand. -/
structure BurstyPool where
  desk : Desk
  targetSize : Nat
  /-- The stack, top first. -/
  stored : List Session
deriving DecidableEq

namespace BurstyPool

def ofSize (targetSize : Nat) : BurstyPool := ⟨.opened .bursty, targetSize, []⟩

def stats (pool : BurstyPool) : PoolStats :=
  ⟨pool.desk.kind, pool.targetSize, pool.stored.length, pool.desk.checkedOut⟩

/-- Binds the pool to a service. Sessions are created only when they are asked for. -/
def bind (pool : BurstyPool) (backend : BackendId) : BurstyPool :=
  { pool with desk := pool.desk.bind backend }

def push (session : Session) (pool : BurstyPool) : BurstyPool :=
  { pool with stored := session :: pool.stored }

def pop? (pool : BurstyPool) : Option (Session × BurstyPool) :=
  match pool.stored with
  | [] => none
  | session :: rest => some (session, { pool with stored := rest })

theorem pop?_eq_none_iff {pool : BurstyPool} : pool.pop? = none ↔ pool.stored = [] := by
  unfold pop?
  split <;> simp_all

theorem pop?_eq_some_iff {pool taken : BurstyPool} {session : Session} :
    pool.pop? = some (session, taken) ↔
      ∃ rest, pool.stored = session :: rest ∧ { pool with stored := rest } = taken := by
  unfold pop?
  split
  next empty => simp [empty]
  next top rest stored =>
    constructor
    · rintro ⟨⟩
      exact ⟨rest, stored, rfl⟩
    · rintro ⟨rest, same, rfl⟩
      cases stored.symm.trans same
      rfl

/-- Putting back the session taken last undoes taking it. -/
theorem push_of_pop? {pool taken : BurstyPool} {session : Session}
    (popped : pool.pop? = some (session, taken)) : taken.push session = pool := by
  obtain ⟨rest, stored, rfl⟩ := pop?_eq_some_iff.1 popped
  rw [push, ← stored]

variable {σ : Type} [Service σ]

def handOut (pool : BurstyPool) (session : Session) :
    Act σ (Except Failure Session × BurstyPool) := do
  pool.desk.reportAcquired session
  pure (.ok (session.setInUse true), { pool with desk := pool.desk.countOut })

/-- Hands out a session created for the purpose, if it could be created. -/
def handOutNew (pool : BurstyPool) (created : Except Failure Session) :
    Act σ (Except Failure Session × BurstyPool) :=
  match created with
  | .error e => pure (.error e, pool)
  | .ok session => pool.handOut session

/-- Takes a session. One whose probe fails is put back. -/
def get (pool : BurstyPool) : Act σ (Except Failure Session × BurstyPool) :=
  match pool.pop? with
  | none => do
    let created ← pool.desk.create
    pool.handOutNew created
  | some (session, taken) => do
    match ← session.exists? with
    | .ok true => taken.handOut session
    | .ok false => do
      let created ← taken.desk.replace session
      taken.handOutNew created
    | .error e =>
      if e.isNotFound then do
        let created ← taken.desk.replace session
        taken.handOutNew created
      else pure (.error e, taken.push session)

/-- Returns a session, which is deleted if enough are stored. -/
def put (pool : BurstyPool) (session : Session) : Act σ (Except Failure Unit × BurstyPool) :=
  let pool := { pool with desk := pool.desk.countIn }
  let session := session.setInUse false
  if pool.stored.length < pool.targetSize then
    pure (.ok (), pool.push session)
  else do
    Act.report
      (pool.desk.sessionEntry .debug "Pool at target size, deleting returned session" session [])
    match ← session.deleteQuietly with
    | .ok _ => pure (.ok (), pool)
    | .error e => do
      Act.report (pool.desk.entry .warn "Failed to delete surplus session"
        [("error", .text e.message)])
      pure (.error e, pool)

def clear (pool : BurstyPool) : Act σ (Except Failure Unit × BurstyPool) :=
  pool.desk.clear pop? pool.stored.length pool

end BurstyPool
end SessionPooling
