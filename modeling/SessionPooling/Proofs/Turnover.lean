import Mathlib.Data.List.Perm.Subperm
import SessionPooling.Proofs.Recorder
import SessionPooling.Session

/-! What becomes of sessions. Between two moments some sessions are dropped and others arrive
under names that the services gave out meanwhile; how many there are changes only with what
was dropped, and with each session that was to be replaced and could not be. -/
namespace SessionPooling

namespace Exchange

/-- The names that a service gave to new sessions. -/
def issued : Exchange → List SessionId
  | ⟨_, .batchCreate .., .ok ids⟩ => ids
  | ⟨_, .create _, .ok id⟩ => [id]
  | _ => []

/-- A single session was asked for, and not created. -/
def refused : Exchange → Bool
  | ⟨_, .create _, .error _⟩ => true
  | _ => false

/-- No more sessions were created than asked for. -/
def measured : Exchange → Bool
  | ⟨_, .batchCreate count _, .ok ids⟩ => decide (ids.length ≤ count)
  | _ => true

end Exchange

def idsIssued (heard : List Exchange) : List SessionId := heard.flatMap Exchange.issued

def creationsRefused (heard : List Exchange) : Nat := heard.countP Exchange.refused

theorem idsIssued_append (heard more : List Exchange) :
    idsIssued (heard ++ more) = idsIssued heard ++ idsIssued more :=
  List.flatMap_append

theorem idsIssued_batch (backend : BackendId) (count : Nat) (template : Template)
    (ids : List SessionId) : idsIssued [⟨backend, .batchCreate count template, .ok ids⟩] = ids :=
  List.append_nil ids

theorem idsIssued_batch_cons (backend : BackendId) (count : Nat) (template : Template)
    (ids : List SessionId) (heard : List Exchange) :
    idsIssued (⟨backend, .batchCreate count template, .ok ids⟩ :: heard) = ids ++ idsIssued heard :=
  List.flatMap_cons

theorem creationsRefused_append (heard more : List Exchange) :
    creationsRefused (heard ++ more) = creationsRefused heard + creationsRefused more :=
  List.countP_append

/-- By what a service knows a session. -/
def Session.handle (session : Session) : BackendId × Option SessionId :=
  (session.backend, session.id?)

/-- Sessions turn into others. `bounded` says that no more can come than go, and `entire` that
only those are lost which could not be replaced. -/
structure Turnover (bounded entire : Prop) (before after : List Session)
    (heard : List Exchange) : Prop where
  sourced : (after.map Session.id?).Subperm (before.map Session.id? ++ (idsIssued heard).map some)
  atMost : bounded → after.length + creationsRefused heard ≤ before.length
  exact : bounded → entire → after.length + creationsRefused heard = before.length

namespace Turnover
variable {bounded entire : Prop} {before mid after : List Session} {heard more : List Exchange}

theorem same (names : (after.map Session.id?).Perm (before.map Session.id?))
    (quiet : creationsRefused heard = 0) : Turnover bounded entire before after heard := by
  have lengths : after.length = before.length := by simpa using names.length_eq
  refine ⟨names.subperm.trans (List.sublist_append_left _ _).subperm, fun _ => ?_, fun _ _ => ?_⟩
  · omega
  · omega

theorem refl (sessions : List Session) : Turnover bounded entire sessions sessions [] :=
  same (.refl _) rfl

/-- Sessions may go where nothing says that they stay. -/
theorem dropped (fewer : after.Sublist before) (quiet : creationsRefused heard = 0)
    (notEntire : bounded → ¬ entire) : Turnover bounded entire before after heard := by
  refine ⟨?_, fun _ => ?_, fun holds whole => (notEntire holds whole).elim⟩
  · exact ((fewer.map _).trans (List.sublist_append_left _ _)).subperm
  · have := fewer.length_le
    omega

theorem renewed {old new : Session} {id : SessionId} (name : new.id? = some id)
    (fresh : id ∈ idsIssued heard) (quiet : creationsRefused heard = 0) :
    Turnover bounded entire [old] [new] heard := by
  refine ⟨?_, fun _ => ?_, fun _ _ => ?_⟩
  · simp only [List.map_cons, List.map_nil, name]
    exact List.singleton_subperm_iff.2 (List.mem_append_right _ (List.mem_map_of_mem fresh))
  · exact Nat.le_of_eq (congrArg _ quiet)
  · exact congrArg _ quiet

theorem elastic (fewer : after.Sublist before) (notBounded : ¬ bounded) :
    Turnover bounded entire before after heard :=
  ⟨((fewer.map _).trans (List.sublist_append_left _ _)).subperm,
    fun holds => (notBounded holds).elim, fun holds => (notBounded holds).elim⟩

/-- Where more may come than go, a new session joins those that stay. -/
theorem joined {new : Session} {id : SessionId} (name : new.id? = some id)
    (fresh : id ∈ idsIssued heard) (notBounded : ¬ bounded) (sessions : List Session) :
    Turnover bounded entire sessions (new :: sessions) heard := by
  refine ⟨?_, fun holds => (notBounded holds).elim, fun holds => (notBounded holds).elim⟩
  rw [List.map_cons, name]
  have arrived : [some id].Subperm ((idsIssued heard).map some) :=
    List.singleton_subperm_iff.2 (List.mem_map_of_mem fresh)
  exact (List.perm_append_comm.subperm).trans ((List.subperm_append_left _).2 arrived)

/-- A session that is gone, and a new one in its place could not be created. -/
theorem gone {old : Session} (refused : creationsRefused heard ≤ 1)
    (counted : entire → creationsRefused heard = 1) : Turnover bounded entire [old] [] heard := by
  refine ⟨List.nil_subperm, fun _ => ?_, fun _ whole => ?_⟩
  · simpa using refused
  · simpa using counted whole

theorem trans (first : Turnover bounded entire before mid heard)
    (second : Turnover bounded entire mid after more) :
    Turnover bounded entire before after (heard ++ more) := by
  refine ⟨?_, fun holds => ?_, fun holds whole => ?_⟩
  · rw [idsIssued_append, List.map_append, ← List.append_assoc]
    exact second.sourced.trans ((List.subperm_append_right _).2 first.sourced)
  · have := first.atMost holds
    have := second.atMost holds
    rw [creationsRefused_append]
    omega
  · have := first.exact holds whole
    have := second.exact holds whole
    rw [creationsRefused_append]
    omega

theorem append_right (turnover : Turnover bounded entire before after heard)
    (others : List Session) : Turnover bounded entire (before ++ others) (after ++ others) heard := by
  obtain ⟨sourced, atMost, exact⟩ := turnover
  refine ⟨?_, fun holds => ?_, fun holds whole => ?_⟩
  · simp only [List.map_append, List.append_assoc]
    refine (((List.subperm_append_right _).2 sourced)).trans ?_
    rw [List.append_assoc]
    exact (List.subperm_append_left _).2 List.perm_append_comm.subperm
  · have := atMost holds
    simp only [List.length_append]
    omega
  · have := exact holds whole
    simp only [List.length_append]
    omega

/-- Only the names of the sessions count, and not their order. -/
theorem congr {before' after' : List Session}
    (turnover : Turnover bounded entire before after heard)
    (first : (before.map Session.id?).Perm (before'.map Session.id?))
    (last : (after.map Session.id?).Perm (after'.map Session.id?)) :
    Turnover bounded entire before' after' heard := by
  have firstLength : before.length = before'.length := by simpa using first.length_eq
  have lastLength : after.length = after'.length := by simpa using last.length_eq
  refine ⟨?_, fun holds => ?_, fun holds whole => ?_⟩
  · have names := turnover.sourced
    rw [last.subperm_right, (first.append_right _).subperm_left] at names
    exact names
  · have := turnover.atMost holds
    omega
  · have := turnover.exact holds whole
    omega

/-- What arrives has been created, so all sessions are created if those from before were. -/
theorem born (turnover : Turnover bounded entire before after heard)
    (bornBefore : ∀ session ∈ before, session.creation ≠ none) :
    ∀ session ∈ after, session.creation ≠ none := by
  intro session member never
  -- Such a session has no name, so it neither was there before nor got one meanwhile.
  have unnamed : session.id? = none := congrArg (Option.map _) never
  have named := turnover.sourced.subset (List.mem_map_of_mem member)
  rw [unnamed, List.mem_append] at named
  rcases named with old | new
  · obtain ⟨other, otherMember, otherUnnamed⟩ := List.mem_map.1 old
    exact bornBefore other otherMember (Option.map_eq_none_iff.1 otherUnnamed)
  · obtain ⟨id, -, impossible⟩ := List.mem_map.1 new
    cases impossible

theorem mono {narrower whole : Prop} (turnover : Turnover bounded entire before after heard)
    (narrow : narrower → bounded) (wholly : narrower → whole → entire) :
    Turnover narrower whole before after heard :=
  ⟨turnover.sourced, fun holds => turnover.atMost (narrow holds),
    fun holds all => turnover.exact (narrow holds) (wholly holds all)⟩

end Turnover
end SessionPooling
