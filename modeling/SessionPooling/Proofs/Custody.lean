import SessionPooling.Proofs.CleanFailure
import SessionPooling.Proofs.LiveLedger

/-! Who answers for the live sessions of a service. A pool and its callers do so when each live
session is one of theirs. Whatever a pool does keeps it that way: a session leaves its care when
the service said that it is gone, or was made to delete it, and each that comes to be live comes
into its care. -/
namespace SessionPooling

namespace Session

def OnlyAt (i : BackendId) (sessions : List Session) : Prop :=
  ∀ session ∈ sessions, session.backend = i

section
variable {i : BackendId} {sessions others : List Session}

theorem OnlyAt.of_perm (only : OnlyAt i sessions)
    (handles : (others.map handle).Perm (sessions.map handle)) : OnlyAt i others := by
  intro session member
  obtain ⟨other, otherMember, same⟩ :=
    List.mem_map.1 (handles.subset (List.mem_map_of_mem member))
  exact (congrArg Prod.fst same).symm.trans (only other otherMember)

theorem names_of_handles (handles : (others.map handle).Perm (sessions.map handle)) :
    (others.map id?).Perm (sessions.map id?) := by
  have names := handles.map Prod.snd
  rwa [List.map_map, List.map_map] at names

end
end Session

/-- Some sessions of a service turn into others, while those that are live there change. One that
is live in the end is among the others, or was live before and not among those that turned. -/
structure Custody (i : BackendId) (before after : List Session)
    (live liveAfter : List SessionId) : Prop where
  stays : Session.OnlyAt i before → Session.OnlyAt i after
  accounts : Session.OnlyAt i before → ∀ id ∈ liveAfter,
    id ∈ live ∧ some id ∉ before.map Session.id? ∨ some id ∈ after.map Session.id?

namespace Custody
variable {i : BackendId} {before mid after : List Session} {live liveMid liveAfter : List SessionId}

theorem same (handles : (after.map Session.handle).Perm (before.map Session.handle))
    (fewer : liveAfter ⊆ live) : Custody i before after live liveAfter := by
  refine ⟨fun only => only.of_perm handles, fun _ id member => ?_⟩
  by_cases owned : some id ∈ before.map Session.id?
  · exact .inr ((Session.names_of_handles handles).symm.subset owned)
  · exact .inl ⟨fewer member, owned⟩

theorem refl (sessions : List Session) : Custody i sessions sessions live live :=
  same (.refl _) (List.Subset.refl _)

/-- Sessions that are no longer live may go. -/
theorem gone (fewer : liveAfter ⊆ live) (missing : Session.OnlyAt i before →
    ∀ session ∈ before, ∀ id, session.id? = some id → id ∉ liveAfter) :
    Custody i before [] live liveAfter := by
  refine ⟨fun _ => List.forall_mem_nil _, fun only id member => ?_⟩
  refine .inl ⟨fewer member, fun owned => ?_⟩
  obtain ⟨session, sessionMember, named⟩ := List.mem_map.1 owned
  exact missing only session sessionMember id named member

/-- Sessions that come to be live arrive. -/
theorem arrived (home : Session.OnlyAt i after)
    (sourced : ∀ id ∈ liveAfter, some id ∈ after.map Session.id? ∨ id ∈ live) :
    Custody i [] after live liveAfter := by
  refine ⟨fun _ => home, fun _ id member => (sourced id member).symm.imp_left fun older => ?_⟩
  exact ⟨older, List.not_mem_nil⟩

theorem trans (first : Custody i before mid live liveMid)
    (second : Custody i mid after liveMid liveAfter) : Custody i before after live liveAfter := by
  refine ⟨fun only => second.stays (first.stays only), fun only id member => ?_⟩
  obtain ⟨older, apart⟩ | owned := second.accounts (first.stays only) id member
  · exact .inl ((first.accounts only id older).resolve_right apart)
  · exact .inr owned

theorem append_right (custody : Custody i before after live liveAfter) (others : List Session) :
    Custody i (before ++ others) (after ++ others) live liveAfter := by
  constructor
  · intro only
    obtain ⟨here, there⟩ := List.forall_mem_append.1 only
    exact List.forall_mem_append.2 ⟨custody.stays here, there⟩
  · intro only id member
    rw [List.map_append, List.map_append, List.mem_append, List.mem_append]
    by_cases other : some id ∈ others.map Session.id?
    · exact .inr (.inr other)
    · obtain ⟨older, apart⟩ | owned :=
        custody.accounts (List.forall_mem_append.1 only).1 id member
      · exact .inl ⟨older, not_or.2 ⟨apart, other⟩⟩
      · exact .inr (.inl owned)

/-- Only the handles of the sessions count, and not their order. -/
theorem congr {before' after' : List Session} (custody : Custody i before after live liveAfter)
    (first : (before.map Session.handle).Perm (before'.map Session.handle))
    (last : (after.map Session.handle).Perm (after'.map Session.handle)) :
    Custody i before' after' live liveAfter :=
  ((same first (List.Subset.refl _)).trans custody).trans (same last.symm (List.Subset.refl _))

/-- Those who answered for every live session still do. -/
theorem covers (custody : Custody i before after live liveAfter)
    (only : Session.OnlyAt i before) (covered : ∀ id ∈ live, some id ∈ before.map Session.id?) :
    ∀ id ∈ liveAfter, some id ∈ after.map Session.id? := by
  intro id member
  obtain ⟨older, apart⟩ | owned := custody.accounts only id member
  · exact (apart (covered id older)).elim
  · exact owned

end Custody

section
variable {i : BackendId} {live liveAfter : List SessionId} {session : Session}
  {heard more : List Exchange}

namespace Session

theorem Probed.issues_nothing {reply : Except Failure Bool} (probed : session.Probed reply heard) :
    idsIssued heard = [] := by
  cases probed <;> rfl

theorem Pinged.issues_nothing {result : Except Failure Session}
    (pinged : session.Pinged result heard) : idsIssued heard = [] := by
  cases pinged <;> rfl

theorem OnlyDeletes.issues_nothing (only : OnlyDeletes heard) : idsIssued heard = [] := by
  refine List.flatMap_eq_nil_iff.2 fun e member => ?_
  have kind := only e member
  obtain ⟨backend, request, reply⟩ := e
  cases request with
  | delete session => rfl
  | _ => cases kind

theorem Gone.custody (gone : session.Gone heard) (ledger : Ledger i live heard liveAfter) :
    Custody i [session] [] live liveAfter := by
  have settled {reply : Except Failure Bool} (probed : session.Probed reply heard)
      (missing : verdict reply = .ok false) : Custody i [session] [] live liveAfter := by
    refine .gone (ledger.subset probed.issues_nothing) fun only other member id named => ?_
    obtain rfl := List.mem_singleton.1 member
    cases probed with
    | unborn never => simp [id?, never] at named
    | asked known reply =>
      obtain rfl : _ = id := by simpa [id?, known] using named
      refine ledger.truthful.missed (only other List.mem_cons_self) _ ?_
      simp [Exchange.missed?, missing]
  cases gone with
  | absent probed => exact settled probed rfl
  | notFound missing probed => exact settled probed (by simp [verdict, missing])

theorem Pinged.custody_of_missing {e : Failure} (pinged : session.Pinged (.error e) heard)
    (missing : e.isNotFound) (ledger : Ledger i live heard liveAfter) :
    Custody i [session] [] live liveAfter := by
  refine .gone (ledger.subset pinged.issues_nothing) fun only other member id named => ?_
  obtain rfl := List.mem_singleton.1 member
  cases pinged with
  | unborn never => cases missing
  | failed known e =>
    obtain rfl : _ = id := by simpa [id?, known] using named
    refine ledger.truthful.missed (only other List.mem_cons_self) _ ?_
    simp [Exchange.missed?, missing]

end Session

namespace Desk
variable {desk : Desk} {popped : Session} {condition : Condition}

/-- A desk that creates sessions on one service if it creates any. -/
def Faces (i : BackendId) (desk : Desk) : Prop :=
  ∀ backend, desk.backend = some backend → backend = i

theorem Created.custody_ok (created : desk.Created (.ok session) heard) (faces : desk.Faces i)
    (ledger : Ledger i live heard liveAfter) : Custody i [] [session] live liveAfter := by
  cases created with
  | created bound role id time =>
    refine .arrived ?_ fun other member => ?_
    · intro session member
      obtain rfl := List.mem_singleton.1 member
      exact faces _ bound
    · exact (List.mem_cons.1 (ledger.sourced member)).imp_left fun same =>
        List.mem_singleton.2 (congrArg some same)

theorem Created.custody_error {e : Failure} (created : desk.Created (.error e) heard)
    (ledger : Ledger i live heard liveAfter) : Custody i [] [] live liveAfter := by
  have quiet : idsIssued heard = [] := by
    cases created <;> rfl
  exact .same (.refl _) (ledger.subset quiet)

theorem Vetted.custody (vetted : desk.Vetted popped condition heard) (faces : desk.Faces i)
    (ledger : Ledger i live heard liveAfter) :
    Custody i [popped] (condition.left popped) live liveAfter := by
  cases vetted with
  | trusted => exact .same (.refl _) (ledger.subset rfl)
  | alive probed => exact .same (.refl _) (ledger.subset probed.issues_nothing)
  | replaced gone created =>
    obtain ⟨mid, asking, creating⟩ := ledger.exists_mid
    exact (gone.custody asking).trans (created.custody_ok faces creating)
  | lost gone created =>
    obtain ⟨mid, asking, creating⟩ := ledger.exists_mid
    exact (gone.custody asking).trans (created.custody_error creating)
  | unclear _ probed => exact .same (.refl _) (ledger.subset probed.issues_nothing)

theorem Refreshed.custody (refreshed : desk.Refreshed popped condition heard)
    (faces : desk.Faces i) (ledger : Ledger i live heard liveAfter) :
    Custody i [popped] (condition.left popped) live liveAfter := by
  cases refreshed with
  | pinged pinged =>
    have fewer := ledger.subset pinged.issues_nothing
    cases pinged with
    | kept known time => exact .same (.refl _) fewer
  | replaced missing pinged created =>
    obtain ⟨mid, asking, creating⟩ := ledger.exists_mid
    exact (pinged.custody_of_missing missing asking).trans (created.custody_ok faces creating)
  | lost missing pinged created =>
    obtain ⟨mid, asking, creating⟩ := ledger.exists_mid
    exact (pinged.custody_of_missing missing asking).trans (created.custody_error creating)
  | unclear _ pinged => exact .same (.refl _) (ledger.subset pinged.issues_nothing)

end Desk

namespace Pool
variable {pool after : Pool}

theorem Took.custody {result : Except Failure Session} (took : pool.Took result after heard)
    (faces : pool.desk.Faces i) (stocked : pool.Stocked)
    (ledger : Ledger i live heard liveAfter) :
    Custody i pool.sessions (leaving result ++ after.sessions) live liveAfter := by
  cases took with
  | exhausted => exact .same (.refl _) (ledger.subset rfl)
  | created isBursty empty created =>
    rw [sessions_mapDesk]
    exact ((created.custody_ok faces ledger).append_right pool.sessions).congr (.refl _) (.refl _)
  | notCreated isBursty empty created =>
    exact (created.custody_error ledger).append_right pool.sessions
  | @handedOut popped rest session _ taken vetted =>
    have moved : Custody i (popped :: rest.sessions) (session :: rest.sessions) live liveAfter :=
      (vetted.custody faces ledger).append_right rest.sessions
    rw [(popped_of_pop? taken).sessions, sessions_mapDesk]
    exact moved.congr (.refl _) (.refl _)
  | lost taken vetted =>
    rw [(popped_of_pop? taken).sessions]
    exact (vetted.custody faces ledger).append_right after.sessions
  | @putBack popped rest _ _ taken vetted =>
    rw [(popped_of_pop? taken).sessions]
    exact (vetted.custody faces ledger).append_right rest.sessions
  | crowdedOut taken overfull vetted => exact (overfull stocked).elim

theorem Pinged.custody {result : Except Failure Bool} (pinged : pool.Pinged result after heard)
    (faces : pool.desk.Faces i) (stocked : pool.Stocked)
    (ledger : Ledger i live heard liveAfter) :
    Custody i pool.sessions after.sessions live liveAfter := by
  cases pinged with
  | idle => exact .same (.refl _) (ledger.subset rfl)
  | @stored popped rest session _ now taken refreshed =>
    have moved : Custody i (popped :: rest.sessions) (session :: rest.sessions) live liveAfter :=
      (refreshed.custody faces ledger).append_right rest.sessions
    rw [(popped_of_pop? taken).sessions]
    exact moved.congr (.refl _) ((rest.sessions_shelve now session).symm.map _)
  | lost taken refreshed =>
    rw [(popped_of_pop? taken).sessions]
    exact (refreshed.custody faces ledger).append_right after.sessions
  | @putBack popped rest _ _ taken refreshed =>
    rw [(popped_of_pop? taken).sessions]
    exact (refreshed.custody faces ledger).append_right rest.sessions
  | crowdedOut taken overfull refreshed => exact (overfull stocked).elim

theorem PingedOn.custody (went : pool.PingedOn after heard) (faces : pool.desk.Faces i)
    (stocked : pool.Stocked) (ledger : Ledger i live heard liveAfter) :
    Custody i pool.sessions after.sessions live liveAfter := by
  induction went generalizing live with
  | done => exact .same (.refl _) (ledger.subset rfl)
  | next pinged rest ih =>
    obtain ⟨mid, first, second⟩ := ledger.exists_mid
    refine (pinged.custody faces stocked first).trans (ih ?_ ?_ second)
    · rw [pinged.desk]
      exact faces
    · exact stocked.of_le pinged.kin pinged.available_le

/-- The session that a pool did not take back for want of room. -/
def rejected (session : Session) : Except Failure Unit → List Session
  | .error (.poolFull _) => [session]
  | _ => []

@[simp] theorem rejected_ok (session : Session) : rejected session (.ok ()) = [] := rfl

/-- Of a pool that keeps to its capacity: what it does not take back, it turns away. -/
theorem Returned.custody {result : Except Failure Unit}
    (returned : pool.Returned session result after heard) (isBounded : pool.bounded)
    (ledger : Ledger i live heard liveAfter) :
    Custody i (session :: pool.sessions) (after.sessions ++ rejected session result) live
      liveAfter := by
  have refused : Custody i (session :: pool.sessions) (pool.sessions ++ [session]) live live :=
    .same ((List.perm_append_singleton session pool.sessions).map _) (List.Subset.refl _)
  cases returned with
  | stored now room =>
    have stored := (pool.mapDesk .countIn).sessions_shelve now (session.setInUse false)
    rw [sessions_mapDesk] at stored
    rw [rejected_ok, List.append_nil]
    exact .same (stored.map _) (ledger.subset rfl)
  | @waiting inner pending ready same room fresh =>
    subst same
    have queued : (inner.queue.sessions ++ (pending ++ [ready])).Perm
        (ready :: (inner.queue.sessions ++ pending)) := by
      rw [← List.append_assoc]
      exact List.perm_append_singleton _ _
    have handle : ready.handle = session.handle := by
      unfold Session.newTransaction at fresh
      split at fresh
      · cases fresh
      · cases fresh
        rfl
    rw [rejected_ok, List.append_nil]
    refine .same ((queued.map _).trans ?_) (ledger.subset rfl)
    rw [List.map_cons, handle]
    exact .refl _
  | deleted isBursty => exact (Bool.false_ne_true (isBursty.symm.trans isBounded)).elim
  | refused =>
    obtain rfl := ledger.eq_of_nil
    rw [sessions_mapDesk]
    exact refused
  | turnedAway =>
    obtain rfl := ledger.eq_of_nil
    exact refused
  | @unborn e never =>
    obtain rfl := ledger.eq_of_nil
    have unnamed : session.id? = none := congrArg (Option.map _) never
    have dropped : Custody i [session] [] liveAfter liveAfter := by
      refine .gone (List.Subset.refl _) fun _ other member id named => ?_
      obtain rfl := List.mem_singleton.1 member
      rw [unnamed] at named
      cases named
    rw [sessions_mapDesk]
    unfold rejected
    split
    · exact refused
    · rw [List.append_nil]
      exact dropped.append_right pool.sessions

end Pool

/-- No session that waits is lost where there is room for all. -/
theorem TransactionPingingPool.Flushed.sessions {pending : List Session} {inner : PingingPool}
    {result : Except Failure Nat} {after : TransactionPingingPool}
    (flushed : Flushed pending inner result after)
    (fits : inner.queue.size + pending.length ≤ inner.size) :
    (after.inner.queue.sessions ++ after.pending).Perm (inner.queue.sessions ++ pending) := by
  induction flushed with
  | done => exact .refl _
  | refused full =>
    rw [List.length_cons] at fits
    omega
  | @moved session rest inner result after now room others ih =>
    have queued : (inner.shelve now session).queue.sessions.Perm
        (session :: inner.queue.sessions) := PingQueue.sessions_insert _ _
    have size : (inner.shelve now session).queue.size = inner.queue.size + 1 :=
      PingQueue.size_insert _ _
    have stillFits : (inner.shelve now session).queue.size + rest.length ≤ inner.size := by
      rw [List.length_cons] at fits
      omega
    exact (ih stillFits).trans ((queued.append_right rest).trans List.perm_middle.symm)

theorem Pool.Settled.custody {pool after : Pool} {result : Except Failure Nat}
    (settled : Settled pool result after)
    (fits : pool.bounded → pool.sessions.length ≤ pool.capacity) :
    Custody i pool.sessions after.sessions live live := by
  cases settled with
  | nothing => exact .refl _
  | @flushed inner pending _ after flushed =>
    have total : inner.queue.size + pending.length ≤ inner.size := by
      have fit := fits rfl
      rwa [sessions, List.length_append, PingQueue.length_sessions] at fit
    exact .same ((flushed.sessions total).map _) (List.Subset.refl _)

end
end SessionPooling
