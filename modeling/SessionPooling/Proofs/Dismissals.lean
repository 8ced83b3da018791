import SessionPooling.Proofs.Custody

/-! What becomes of the sessions that a pool no longer wants: those that are stored when it is
emptied, and those that come back to a bursty pool that keeps enough. Every one of them is
deleted. -/
namespace SessionPooling

namespace Session

/-- The service was asked to delete every one of some sessions, and for nothing else. -/
structure Dismissed (sessions : List Session) (heard : List Exchange) : Prop where
  only : OnlyDeletes heard
  asked : ∀ session ∈ sessions, ∀ id, session.id? = some id →
    ∃ exchange ∈ heard, exchange.backend = session.backend ∧ exchange.request = .delete id

section
variable {sessions others : List Session} {heard more : List Exchange}

theorem Dismissed.nil : Dismissed [] [] := ⟨List.forall_mem_nil _, List.forall_mem_nil _⟩

theorem Dismissed.append (first : Dismissed sessions heard) (second : Dismissed others more) :
    Dismissed (sessions ++ others) (heard ++ more) := by
  refine ⟨first.only.append second.only, fun session member id named => ?_⟩
  obtain here | there := List.mem_append.1 member
  · obtain ⟨exchange, asked, sent⟩ := first.asked session here id named
    exact ⟨exchange, List.mem_append_left _ asked, sent⟩
  · obtain ⟨exchange, asked, sent⟩ := second.asked session there id named
    exact ⟨exchange, List.mem_append_right _ asked, sent⟩

/-- A session that was to be deleted is gone after that, since nothing was created. -/
theorem Dismissed.custody {i : BackendId} {live liveAfter : List SessionId}
    (dismissed : Dismissed sessions heard) (ledger : Ledger i live heard liveAfter) :
    Custody i sessions [] live liveAfter := by
  refine .gone (ledger.subset dismissed.only.issues_nothing) fun only session member id named => ?_
  obtain ⟨exchange, asked, there, sent⟩ := dismissed.asked session member id named
  obtain ⟨earlier, later, rfl⟩ := List.append_of_mem asked
  obtain ⟨mid, -, ending⟩ := ledger.exists_mid
  have quiet : idsIssued later = [] := OnlyDeletes.issues_nothing fun e inside =>
    dismissed.only e (List.mem_append_right _ (List.mem_cons_of_mem _ inside))
  have missed : exchange.missed? = some id := by
    obtain ⟨backend, request, reply⟩ := exchange
    obtain rfl : request = .delete id := sent
    rfl
  cases ending with
  | cons truthful rest =>
    intro still
    exact truthful.missed (there.trans (only session member)) id missed (rest.subset quiet still)

end

theorem DeletedAs.dismissed {session : Session} {outcome : Except Failure Unit}
    {heard : List Exchange} (deleted : session.DeletedAs outcome heard) :
    Dismissed [session] heard := by
  refine ⟨deleted.only, fun other member id named => ?_⟩
  obtain rfl := List.mem_singleton.1 member
  cases deleted with
  | unborn never => simp [id?, never] at named
  | asked known reply =>
    obtain rfl := by simpa [id?, known] using named
    exact ⟨_, List.mem_singleton_self _, rfl, rfl⟩

theorem Drained.dismissed {sessions : List Session} {result : Except Failure Unit}
    {heard : List Exchange} (drained : Drained sessions result heard) :
    Dismissed sessions heard := by
  obtain ⟨outcomes, deletions, -⟩ := drained
  induction deletions with
  | nil => exact .nil
  | cons deleted others ih => exact deleted.dismissed.append ih

end Session

variable {σ : Type} [Service σ]

/-- Emptying a pool dismisses all that it stores. -/
theorem Pool.clear_dismissed (pool : Pool) :
    (pool.clear (σ := Recorder σ)).Hears fun _ heard => Session.Dismissed pool.sessions heard :=
  pool.clear_drained.mono fun _ _ ⟨_, drained⟩ => drained.dismissed

namespace BurstyPool

/-- How giving a session back to a bursty pool goes: it is kept, or it is one too many. -/
inductive GivenBack (pool : BurstyPool) (session : Session) :
    BurstyPool → List Exchange → Prop where
  | kept (room : pool.stored.length < pool.targetSize) :
      GivenBack pool session
        { pool with desk := pool.desk.countIn, stored := session.setInUse false :: pool.stored } []
  | dismissed {heard} (enough : pool.targetSize ≤ pool.stored.length)
      (dismissed : Session.Dismissed [session.setInUse false] heard) :
      GivenBack pool session { pool with desk := pool.desk.countIn } heard

theorem put_givenBack (pool : BurstyPool) (session : Session) :
    (pool.put (σ := Recorder σ) session).Hears fun r heard =>
      pool.GivenBack session r.2 heard := by
  unfold put
  dsimp only
  split
  next room => exact .pure (.kept room)
  next full =>
    refine .silently (fun _ => rfl) fun _ => ?_
    refine .bind (Session.deleteQuietly_deletedAs _) fun reply heard ⟨outcome, deleted, _⟩ => ?_
    have gone : pool.GivenBack session { pool with desk := pool.desk.countIn } heard :=
      .dismissed (Nat.le_of_not_lt full) deleted.dismissed
    cases reply with
    | ok _ => exact .pure gone
    | error e => exact .silently (fun _ => rfl) fun _ => .pure gone

theorem GivenBack.custody {i : BackendId} {live liveAfter : List SessionId}
    {pool after : BurstyPool} {session : Session} {heard : List Exchange}
    (given : pool.GivenBack session after heard) (ledger : Ledger i live heard liveAfter) :
    Custody i (session :: pool.stored) after.stored live liveAfter := by
  cases given with
  | kept room => exact .same (.refl _) (ledger.subset rfl)
  | dismissed enough dismissed =>
    exact ((dismissed.custody ledger).append_right pool.stored).congr (.refl _) (.refl _)

end BurstyPool
end SessionPooling
