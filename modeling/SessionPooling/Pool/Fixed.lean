import SessionPooling.Pool.Desk
import SessionPooling.Pool.Stats

/-! A pool of fixed size that hands out the session returned last, so that busy sessions
stay warm and idle ones age. A session that was idle for the maximal age or longer is
probed before it is handed out, and replaced if it is gone. -/
namespace SessionPooling

/-- A pool that keeps at most `size` sessions on a stack. -/
structure FixedPool where
  desk : Desk
  size : Nat
  defaultTimeout : Duration
  /-- The idle time from which on a session is probed. -/
  maxAge : Duration
  /-- The stack, top first. -/
  stored : List Session
deriving DecidableEq

namespace FixedPool

def ofSize (size : Nat) : FixedPool where
  desk := .opened .fixed
  size
  defaultTimeout := PoolConfig.standard.defaultTimeout
  maxAge := PoolConfig.standard.maxAge
  stored := []

def stats (pool : FixedPool) : PoolStats :=
  ⟨pool.desk.kind, pool.size, pool.stored.length, pool.desk.checkedOut⟩

def push (session : Session) (pool : FixedPool) : Except Failure FixedPool :=
  if pool.size ≤ pool.stored.length then .error (.poolFull pool.size)
  else .ok { pool with stored := session :: pool.stored }

def pop? (pool : FixedPool) : Option (Session × FixedPool) :=
  match pool.stored with
  | [] => none
  | session :: rest => some (session, { pool with stored := rest })

theorem pop?_eq_none_iff {pool : FixedPool} : pool.pop? = none ↔ pool.stored = [] := by
  unfold pop?
  split <;> simp_all

theorem pop?_eq_some_iff {pool taken : FixedPool} {session : Session} :
    pool.pop? = some (session, taken) ↔
      ∃ rest, pool.stored = session :: rest ∧ { pool with stored := rest } = taken := by
  unfold pop?
  split
  next empty => simp [empty]
  next top rest stored =>
    constructor
    · rintro ⟨⟩
      exact ⟨rest, stored, rfl⟩
    · rintro ⟨rest, same, rfl⟩
      cases stored.symm.trans same
      rfl

variable {σ : Type} [Service σ]

def bind (pool : FixedPool) (backend : BackendId) : Act σ (Except Failure Unit × FixedPool) :=
  let pool := { pool with desk := pool.desk.bind backend }
  pool.desk.provision (fun session pool => pure (pool.push session))
    (pool.size - pool.stored.length) pool

/-- Puts a session back after its probe failed. -/
def restore (pool : FixedPool) (session : Session) : Act σ FixedPool :=
  match pool.push session with
  | .ok pool => pure pool
  | .error e => do
    Act.report (pool.desk.entry .warn "Failed to put back session after probe error"
      [("error", .text e.message)])
    pure pool

/-- Makes sure that a session taken from the stack can be handed out. -/
def revalidate (pool : FixedPool) (session : Session) :
    Act σ (Except Failure Session × FixedPool) := do
  let now ← Act.now
  if session.lastUse.elapsed now < pool.maxAge then pure (.ok session, pool)
  else
    match ← session.exists? with
    | .ok true => pure (.ok session, pool)
    | .ok false => do
      let replacement ← pool.desk.replace session
      pure (replacement, pool)
    | .error e =>
      if e.isNotFound then do
        let replacement ← pool.desk.replace session
        pure (replacement, pool)
      else do
        let pool ← pool.restore session
        pure (.error e, pool)

/-- Takes a session. On an empty stack nothing becomes free, however long one waits. -/
def get (pool : FixedPool) (timeout : Option Duration) :
    Act σ (Except Failure Session × FixedPool) :=
  match pool.pop? with
  | none => pure (.error (.poolExhausted (timeout.getD pool.defaultTimeout)), pool)
  | some (session, taken) => do
    match ← taken.revalidate session with
    | (.error e, pool) => pure (.error e, pool)
    | (.ok session, pool) => do
      pool.desk.reportAcquired session
      pure (.ok (session.setInUse true), { pool with desk := pool.desk.countOut })

/-- Returns a session, which is lost if there is no room for it. -/
def put (pool : FixedPool) (session : Session) : Except Failure Unit × FixedPool :=
  let pool := { pool with desk := pool.desk.countIn }
  match pool.push (session.setInUse false) with
  | .ok pool => (.ok (), pool)
  | .error e => (.error e, pool)

def clear (pool : FixedPool) : Act σ (Except Failure Unit × FixedPool) :=
  pool.desk.clear pop? pool.stored.length pool

end FixedPool
end SessionPooling
