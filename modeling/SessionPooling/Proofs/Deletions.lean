import SessionPooling.Proofs.Desk
import SessionPooling.Proofs.Draining

/-! Deleting sessions one after another. The service that a session belongs to is asked once to
delete it, whatever became of the others; that it is gone already counts as success, and of the
other failures the first is handed on. -/
namespace SessionPooling
variable {σ : Type} [Service σ]

/-- The failure of a deletion, if it is not that the session is gone already. -/
def realFailure? : Except Failure Unit → Option Failure
  | .ok () => none
  | .error e => if e.isNotFound then none else some e

/-- What some deletions come to. -/
def firstFailure (outcomes : List (Except Failure Unit)) : Except Failure Unit :=
  match outcomes.findSome? realFailure? with
  | none => .ok ()
  | some e => .error e

section
variable {outcomes : List (Except Failure Unit)}

theorem firstFailure_append (outcomes others : List (Except Failure Unit)) :
    firstFailure (outcomes ++ others) =
      TransactionPingingPool.both (firstFailure outcomes) (firstFailure others) := by
  unfold firstFailure
  rw [List.findSome?_append]
  cases outcomes.findSome? realFailure? with
  | none => rfl
  | some e => rfl

theorem firstFailure_eq_ok_iff :
    firstFailure outcomes = .ok () ↔ ∀ outcome ∈ outcomes, realFailure? outcome = none := by
  unfold firstFailure
  rw [← List.findSome?_eq_none_iff]
  cases outcomes.findSome? realFailure? with
  | none => simp
  | some e => simp

/-- No real failure comes before the one that is handed on. -/
theorem exists_first_of_firstFailure {e : Failure} (failed : firstFailure outcomes = .error e) :
    ∃ earlier later, outcomes = earlier ++ .error e :: later ∧ e.isNotFound = false ∧
      ∀ outcome ∈ earlier, realFailure? outcome = none := by
  unfold firstFailure at failed
  split at failed
  · cases failed
  next found =>
    cases failed
    obtain ⟨earlier, outcome, later, rfl, real, harmless⟩ := List.findSome?_eq_some_iff.1 found
    cases outcome with
    | ok _ => cases real
    | error told =>
      simp only [realFailure?, Option.ite_none_left_eq_some, Option.some.injEq] at real
      obtain ⟨notMissing, rfl⟩ := real
      exact ⟨earlier, later, rfl, eq_false_of_ne_true notMissing, harmless⟩

end

namespace Session

def OnlyDeletes (heard : List Exchange) : Prop := ∀ e ∈ heard, e.request.kind = .delete

theorem OnlyDeletes.append {heard more : List Exchange} (first : OnlyDeletes heard)
    (second : OnlyDeletes more) : OnlyDeletes (heard ++ more) :=
  List.forall_mem_append.2 ⟨first, second⟩

theorem OnlyDeletes.quiet {heard : List Exchange} (only : OnlyDeletes heard) :
    creationsRefused heard = 0 := by
  refine List.countP_eq_zero.2 fun e member => ?_
  have := only e member
  obtain ⟨backend, request, reply⟩ := e
  cases request with
  | create template => simp [Request.kind] at this
  | _ => simp [Exchange.refused]

/-- How the deletion of a session goes. One that was never created cannot be deleted. -/
inductive DeletedAs (session : Session) : Except Failure Unit → List Exchange → Prop where
  | unborn (never : session.creation = none) :
      DeletedAs session (.error (.invalidOperation .sessionNotCreated)) []
  | asked {creation} (known : session.creation = some creation) (reply) :
      DeletedAs session reply [⟨session.backend, .delete creation.id, reply⟩]

/-- Sessions that were deleted in turn, and how it went for each. -/
inductive Deletions : List Session → List (Except Failure Unit) → List Exchange → Prop where
  | nil : Deletions [] [] []
  | cons {session outcome asked sessions outcomes heard}
      (deleted : session.DeletedAs outcome asked) (others : Deletions sessions outcomes heard) :
      Deletions (session :: sessions) (outcome :: outcomes) (asked ++ heard)

section
variable {session : Session} {outcome : Except Failure Unit} {sessions others : List Session}
  {outcomes more : List (Except Failure Unit)} {heard asked : List Exchange}

theorem DeletedAs.only (deleted : session.DeletedAs outcome heard) : OnlyDeletes heard := by
  cases deleted with
  | unborn => exact List.forall_mem_nil _
  | asked known reply => exact List.forall_mem_singleton.2 rfl

theorem Deletions.only (deletions : Deletions sessions outcomes heard) : OnlyDeletes heard := by
  induction deletions with
  | nil => exact List.forall_mem_nil _
  | cons deleted others ih => exact deleted.only.append ih

theorem Deletions.append (first : Deletions sessions outcomes heard)
    (second : Deletions others more asked) :
    Deletions (sessions ++ others) (outcomes ++ more) (heard ++ asked) := by
  induction first with
  | nil => exact second
  | cons deleted others ih =>
    rw [List.append_assoc]
    exact .cons deleted ih

end

theorem deleteQuietly_deletedAs (session : Session) :
    (session.deleteQuietly (σ := Recorder σ)).Hears fun quiet heard =>
      ∃ outcome, session.DeletedAs outcome heard ∧ quiet = firstFailure [outcome] := by
  have deleted : (session.delete (σ := Recorder σ)).Hears session.DeletedAs := by
    unfold delete
    split
    next never => exact .pure (.unborn never)
    next creation known => exact fun _ => ⟨_, rfl, .asked known _⟩
  refine .bind deleted fun outcome heard deleted => ?_
  cases outcome with
  | ok _ => exact .pure ⟨_, deleted, rfl⟩
  | error e =>
    refine .pure ⟨_, deleted, ?_⟩
    cases missing : e.isNotFound with
    | true => simp [firstFailure, realFailure?, missing]
    | false => simp [firstFailure, realFailure?, missing]

theorem deleteQuietly_deletes (session : Session) :
    (session.deleteQuietly (σ := Recorder σ)).Hears fun _ heard => OnlyDeletes heard :=
  session.deleteQuietly_deletedAs.mono fun _ _ ⟨_, deleted, _⟩ => deleted.only

/-- All sessions were deleted in turn, and the first failure is what it came to. -/
def Drained (sessions : List Session) (result : Except Failure Unit) (heard : List Exchange) :
    Prop :=
  ∃ outcomes, Deletions sessions outcomes heard ∧ result = firstFailure outcomes

theorem Drained.only {sessions : List Session} {result : Except Failure Unit}
    {heard : List Exchange} : Drained sessions result heard → OnlyDeletes heard
  | ⟨_, deletions, _⟩ => deletions.only

theorem Drained.append {sessions others : List Session} {first second : Except Failure Unit}
    {heard more : List Exchange} (drained : Drained sessions first heard)
    (drainedMore : Drained others second more) :
    Drained (sessions ++ others) (TransactionPingingPool.both first second) (heard ++ more) := by
  obtain ⟨outcomes, deletions, rfl⟩ := drained
  obtain ⟨outcomesMore, deletionsMore, rfl⟩ := drainedMore
  exact ⟨_, deletions.append deletionsMore, (firstFailure_append _ _).symm⟩

end Session

namespace Desk

/-- By induction on the sessions: a failure does not keep the others from being deleted. -/
theorem deleteAll_drained (desk : Desk) (sessions : List Session) :
    (desk.deleteAll (σ := Recorder σ) sessions).Hears fun deleted heard =>
      Session.Drained sessions (deleted.map fun _ => ()) heard := by
  induction sessions with
  | nil => exact .pure ⟨[], .nil, rfl⟩
  | cons session rest ih =>
    refine .bind session.deleteQuietly_deletedAs ?_
    rintro quiet heard ⟨outcome, deletedAs, same⟩
    have single : Session.Drained [session] quiet heard :=
      ⟨[outcome], List.append_nil heard ▸ .cons deletedAs .nil, same⟩
    cases quiet with
    | ok _ =>
      refine .bind ih fun others more drained => .pure ?_
      have all := single.append drained
      cases others with
      | ok deleted => exact all
      | error e => exact all
    | error e =>
      exact .silently (fun _ => rfl) fun _ =>
        .bind ih fun others more drained => .pure (single.append drained)

theorem dismissAll_drained {ρ : Type} (desk : Desk) (sessions : List Session) (left : ρ) :
    (desk.dismissAll (σ := Recorder σ) sessions left).Hears fun r heard =>
      r.2 = left ∧ Session.Drained sessions r.1 heard := by
  refine .bind (desk.deleteAll_drained sessions) fun deleted heard drained => ?_
  cases deleted with
  | error e => exact .pure ⟨rfl, drained⟩
  | ok deleted => exact .silently (fun _ => rfl) fun _ => .pure ⟨rfl, drained⟩

end Desk
end SessionPooling
