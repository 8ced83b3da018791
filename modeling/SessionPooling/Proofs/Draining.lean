import SessionPooling.Pool.Basic

/-! Draining a store deletes what is in it, in the order in which the store gives it up, and leaves
the store empty. -/
namespace SessionPooling
variable {σ : Type} [Service σ]

/-- A store gives up these sessions in turn, and then has none. -/
inductive Unloads {ρ : Type} (pop? : ρ → Option (Session × ρ)) : ρ → List Session → ρ → Prop where
  | done {store : ρ} (empty : pop? store = none) : Unloads pop? store [] store
  | next {store rest left : ρ} {session : Session} {sessions : List Session}
      (popped : pop? store = some (session, rest)) (later : Unloads pop? rest sessions left) :
      Unloads pop? store (session :: sessions) left

namespace Desk

/-- Deletes sessions one after another, going on past failures. The result is the number
deleted, or the first failure. -/
def deleteAll (desk : Desk) : List Session → Act σ (Except Failure Nat)
  | [] => pure (.ok 0)
  | session :: rest => do
    match ← session.deleteQuietly with
    | .ok _ => do
      let others ← deleteAll desk rest
      pure (others.map (· + 1))
    | .error e => do
      Act.report (desk.sessionEntry .warn "Failed to delete session while clearing pool" session
        [("error", .text e.message)])
      let _ ← deleteAll desk rest
      pure (.error e)

/-- Deletes sessions, after which this is left. -/
def dismissAll {ρ : Type} (desk : Desk) (sessions : List Session) (left : ρ) :
    Act σ (Except Failure Unit × ρ) := do
  match ← desk.deleteAll sessions with
  | .error e => pure (.error e, left)
  | .ok deleted => do
    desk.reportCleared deleted
    pure (.ok (), left)

section
variable {ρ : Type} {pop? : ρ → Option (Session × ρ)} {store left : ρ} {sessions : List Session}

/-- By induction on the sessions given up: what was counted before is added, and a failure before
comes first. -/
theorem drainRounds_eq (desk : Desk) (unloads : Unloads pop? store sessions left) :
    ∀ (deleted : Nat) (failure : Option Failure),
      desk.drainRounds (σ := σ) pop? sessions.length deleted failure store =
        desk.deleteAll sessions >>= fun others =>
          pure (failure.elim (others.map (deleted + ·)) .error, left) := by
  induction unloads with
  | done empty => exact fun _ _ => rfl
  | @next _ _ _ session sessions popped later ih =>
    intro deleted failure
    rw [List.length_cons, drainRounds, popped, deleteAll]
    simp only [bind_assoc]
    congr 1
    funext quiet
    cases quiet with
    | ok _ =>
      simp only [ih, bind_assoc, pure_bind]
      congr 1
      funext others
      cases others with
      | ok others => cases failure <;> simp [Except.map, Nat.add_assoc, Nat.add_comm 1]
      | error e => rfl
    | error e =>
      simp only [ih, bind_assoc, pure_bind]
      congr 1
      funext _
      congr 1
      funext others
      cases failure <;> cases others <;> rfl

theorem drain_eq (desk : Desk) (unloads : Unloads pop? store sessions left) :
    desk.drain (σ := σ) pop? sessions.length store =
      desk.deleteAll sessions >>= fun deleted => pure (deleted, left) := by
  rw [drain, desk.drainRounds_eq unloads]
  congr 1
  funext deleted
  cases deleted with
  | ok deleted => simp [Except.map]
  | error e => rfl

/-- Emptying a store deletes all that is in it. -/
theorem clear_eq (desk : Desk) (unloads : Unloads pop? store sessions left) :
    desk.clear (σ := σ) pop? sessions.length store = desk.dismissAll sessions left := by
  rw [clear, desk.drain_eq unloads, dismissAll, bind_assoc]
  congr 1
  funext deleted
  cases deleted <;> rfl

end

end Desk

namespace FixedPool

theorem unloads (pool : FixedPool) : Unloads pop? pool pool.stored { pool with stored := [] } := by
  obtain ⟨desk, size, defaultTimeout, maxAge, stored⟩ := pool
  induction stored with
  | nil => exact .done rfl
  | cons session rest ih => exact .next rfl ih

theorem clear_eq (pool : FixedPool) :
    pool.clear (σ := σ) = pool.desk.dismissAll pool.stored { pool with stored := [] } :=
  pool.desk.clear_eq pool.unloads

end FixedPool

namespace BurstyPool

theorem unloads (pool : BurstyPool) : Unloads pop? pool pool.stored { pool with stored := [] } := by
  obtain ⟨desk, targetSize, stored⟩ := pool
  induction stored with
  | nil => exact .done rfl
  | cons session rest ih => exact .next rfl ih

theorem clear_eq (pool : BurstyPool) :
    pool.clear (σ := σ) = pool.desk.dismissAll pool.stored { pool with stored := [] } :=
  pool.desk.clear_eq pool.unloads

end BurstyPool

namespace PingingPool

theorem unloads (pool : PingingPool) :
    Unloads pop? pool pool.queue.sessions { pool with queue := .empty } := by
  obtain ⟨desk, size, defaultTimeout, pingInterval, ⟨entries, ordered⟩, nextSequence⟩ := pool
  induction entries with
  | nil => exact .done rfl
  | cons entry rest ih => exact .next rfl (ih _)

theorem clear_eq (pool : PingingPool) :
    pool.clear (σ := σ) =
      pool.desk.dismissAll pool.queue.sessions { pool with queue := .empty } := by
  have size : pool.queue.size = pool.queue.sessions.length := (List.length_map _).symm
  rw [clear, size]
  exact pool.desk.clear_eq pool.unloads

end PingingPool

namespace TransactionPingingPool

theorem unloads_pending (pending : List Session) : Unloads popPending? pending pending [] := by
  induction pending with
  | nil => exact .done rfl
  | cons session rest ih => exact .next rfl ih

theorem clear_eq (pool : TransactionPingingPool) :
    pool.clear (σ := σ) = (do
      let (queued, inner) ← pool.inner.clear
      let waiting ← inner.desk.deleteAll pool.pending
      pure (both queued (waiting.map fun _ => ()), ⟨inner, []⟩)) := by
  unfold clear
  congr 1
  funext ⟨queued, inner⟩
  dsimp only
  rw [inner.desk.drain_eq (unloads_pending pool.pending), bind_assoc]
  rfl

end TransactionPingingPool
end SessionPooling
