import SessionPooling.Proofs.Deletions
import SessionPooling.Proofs.PoolStore

/-! Giving a session back to a pool, and emptying the pool: every way in which either can go,
and what becomes of the sessions. -/
namespace SessionPooling
variable {σ : Type} [Service σ]

/-- How giving a session back goes. -/
inductive Pool.Returned (pool : Pool) (session : Session) :
    Except Failure Unit → Pool → List Exchange → Prop where
  | stored (now : Instant) (room : pool.bounded → pool.sessions.length < pool.capacity) :
      Returned pool session (.ok ()) ((pool.mapDesk .countIn).shelve now (session.setInUse false)) []
  /-- The session gets a transaction and waits. -/
  | waiting {inner pending ready} (same : pool = .transactionPinging ⟨inner, pending⟩)
      (room : pool.sessions.length < pool.capacity)
      (fresh : (session.setInUse false).newTransaction = .ok ready) :
      Returned pool session (.ok ())
        (.transactionPinging ⟨{ inner with desk := inner.desk.countIn }, pending ++ [ready]⟩) []
  /-- The session is one too many for a bursty pool. -/
  | deleted {result heard} (isBursty : pool.bounded = false)
      (only : Session.OnlyDeletes heard) :
      Returned pool session result (pool.mapDesk .countIn) heard
  | refused (isBounded : pool.bounded) (full : pool.capacity ≤ pool.sessions.length) :
      Returned pool session (.error (.poolFull pool.capacity)) (pool.mapDesk .countIn) []
  /-- There is no room for the session, which still counts as being out. -/
  | turnedAway (isBounded : pool.bounded) (full : pool.capacity ≤ pool.sessions.length) :
      Returned pool session (.error (.poolFull pool.capacity)) pool []
  /-- A session that was never created cannot get a transaction. -/
  | unborn {e} (never : session.creation = none) :
      Returned pool session (.error e) (pool.mapDesk .countIn) []

theorem Session.never_of_newTransaction {session : Session} {e : Failure}
    (failed : (session.setInUse false).newTransaction = .error e) : session.creation = none := by
  unfold newTransaction at failed
  split at failed
  next never => exact never
  · cases failed

theorem Session.id?_of_newTransaction {session ready : Session}
    (fresh : (session.setInUse false).newTransaction = .ok ready) : ready.id? = session.id? := by
  unfold newTransaction at fresh
  split at fresh
  · cases fresh
  · cases fresh
    rfl

namespace FixedPool

omit [Service σ] in
theorem put_returned (pool : FixedPool) (session : Session) :
    (Pool.fixed pool).Returned session (pool.put session).1 (.fixed (pool.put session).2) [] := by
  unfold put push
  dsimp only
  split
  next next pushed =>
    split at pushed
    · cases pushed
    next room =>
      cases pushed
      -- A stack does not note when its sessions were stored.
      exact @Pool.Returned.stored (.fixed pool) session ⟨0, by decide⟩ fun _ =>
        Nat.lt_of_not_le room
  next e refused =>
    split at refused
    next full =>
      cases refused
      exact .refused rfl full
    · cases refused

end FixedPool

namespace BurstyPool

theorem put_returned (pool : BurstyPool) (session : Session) :
    (pool.put (σ := Recorder σ) session).Hears fun r heard =>
      (Pool.bursty pool).Returned session r.1 (.bursty r.2) heard := by
  unfold put
  dsimp only
  split
  · exact .pure (@Pool.Returned.stored (.bursty pool) session ⟨0, by decide⟩ nofun)
  · refine .silently (fun _ => rfl) fun _ => ?_
    refine .bind (Session.deleteQuietly_deletes _) fun reply heard only => ?_
    cases reply with
    | ok _ => exact .pure (@Pool.Returned.deleted (.bursty pool) session _ _ rfl only)
    | error e =>
      refine .silently (fun _ => rfl) fun _ => .pure ?_
      exact @Pool.Returned.deleted (.bursty pool) session _ _ rfl only

end BurstyPool

namespace PingingPool
variable {wrap : PingingPool → Pool}

omit [Service σ] in
theorem put_returned (around : Pool.Around wrap) (pool : PingingPool) (session : Session)
    (room : pool.queue.size < pool.size → (wrap pool).sessions.length < pool.size) :
    (pool.put (σ := Recorder σ) session).Hears fun r heard =>
      (wrap pool).Returned session r.1 (wrap r.2) heard := by
  refine .bind (enqueue_enqueued (session.setInUse false) _) ?_
  rintro result _ ⟨rfl, enqueued⟩
  cases enqueued with
  | stored now free =>
    have stored : (wrap pool).Returned session (.ok ()) _ [] :=
      .stored now fun _ => around.capacity pool ▸ room free
    rw [around.mapDesk, around.shelve] at stored
    exact .pure stored
  | refused full =>
    have refused : (wrap pool).Returned session _ _ [] :=
      .refused (around.bounded pool)
        (around.capacity pool ▸ Nat.le_trans full (around.size_le pool))
    rw [around.mapDesk, around.capacity] at refused
    exact .pure refused

end PingingPool

namespace Pool

theorem put_returned (pool : Pool) (session : Session) :
    (pool.put (σ := Recorder σ) session).Hears fun r heard =>
      pool.Returned session r.1 r.2 heard := by
  cases pool with
  | fixed pool => exact .pure (pool.put_returned session)
  | bursty pool => exact .map (pool.put_returned session)
  | pinging pool =>
    have room : pool.queue.size < pool.size → (pinging pool).sessions.length < pool.size :=
      fun free => pool.queue.length_sessions ▸ free
    exact .map (pool.put_returned .alone session room)
  | transactionPinging pool =>
    obtain ⟨inner, pending⟩ := pool
    have length : (transactionPinging ⟨inner, pending⟩).sessions.length =
        inner.queue.size + pending.length := by
      simp [sessions]
    refine .map ?_
    unfold TransactionPingingPool.put
    dsimp only
    split
    next full => exact .pure (.turnedAway rfl (length ▸ full))
    next free =>
      have room : (transactionPinging ⟨inner, pending⟩).sessions.length < inner.size :=
        length ▸ Nat.lt_of_not_le free
      split
      · split
        next e failed =>
          refine .pure (@Returned.unborn (transactionPinging ⟨inner, pending⟩) session e ?_)
          exact Session.never_of_newTransaction failed
        next ready fresh => exact .pure (.waiting rfl room fresh)
      · exact .map (inner.put_returned (.waiting pending) session fun _ => room)

namespace Returned
variable {pool after : Pool} {session : Session} {result : Except Failure Unit}
  {heard : List Exchange}

theorem kin (returned : pool.Returned session result after heard) : pool.Kin after := by
  cases returned with
  | stored now room => exact (kin_mapDesk _ _).trans (kin_shelve _ _ _)
  | waiting same room fresh =>
    subst same
    exact ⟨rfl, rfl⟩
  | deleted => exact kin_mapDesk _ _
  | refused => exact kin_mapDesk _ _
  | turnedAway => exact .refl _
  | unborn => exact kin_mapDesk _ _

theorem desk_of_ok (returned : pool.Returned session (.ok ()) after heard) :
    after.desk = pool.desk.countIn := by
  cases returned with
  | stored now room => exact (desk_shelve _ _ _).trans (desk_mapDesk _ _)
  | waiting same room fresh =>
    subst same
    rfl
  | deleted => exact desk_mapDesk _ _

theorem backend (returned : pool.Returned session result after heard) :
    after.desk.backend = pool.desk.backend := by
  cases returned with
  | stored now room =>
    rw [desk_shelve, desk_mapDesk]
    rfl
  | waiting same room fresh =>
    subst same
    rfl
  | turnedAway => rfl
  | _ =>
    rw [desk_mapDesk]
    rfl

/-- A pool with room takes back every session that was created. -/
theorem ok_of_room (returned : pool.Returned session result after heard)
    (isBounded : pool.bounded) (room : pool.sessions.length < pool.capacity)
    (born : session.creation ≠ none) : result = .ok () := by
  cases returned with
  | stored => rfl
  | waiting => rfl
  | deleted isBursty => exact (Bool.false_ne_true (isBursty.symm.trans isBounded)).elim
  | refused _ full => exact (Nat.not_le_of_lt room full).elim
  | turnedAway _ full => exact (Nat.not_le_of_lt room full).elim
  | unborn never => exact (born never).elim

theorem turnover (returned : pool.Returned session result after heard) :
    Turnover pool.bounded (result = .ok ()) (session :: pool.sessions) after.sessions heard := by
  cases returned with
  | stored now room =>
    refine .same (((sessions_shelve _ _ _).map _).trans ?_) rfl
    rw [sessions_mapDesk]
    exact .refl _
  | @waiting inner pending ready same room fresh =>
    subst same
    have queued : (inner.queue.sessions ++ (pending ++ [ready])).Perm
        (ready :: (inner.queue.sessions ++ pending)) := by
      rw [← List.append_assoc]
      exact List.perm_append_singleton _ _
    refine .same ((queued.map _).trans ?_) rfl
    rw [List.map_cons, Session.id?_of_newTransaction fresh]
    exact .refl _
  | deleted isBursty only =>
    rw [sessions_mapDesk]
    exact .elastic (List.sublist_cons_self _ _) (ne_true_of_eq_false isBursty)
  | turnedAway => exact .dropped (List.sublist_cons_self _ _) rfl (fun _ => nofun)
  | _ =>
    rw [sessions_mapDesk]
    exact .dropped (List.sublist_cons_self _ _) rfl (fun _ => nofun)

theorem fits (returned : pool.Returned session result after heard) (isBounded : pool.bounded)
    (fit : pool.sessions.length ≤ pool.capacity) : after.sessions.length ≤ after.capacity := by
  rw [returned.kin.capacity]
  cases returned with
  | stored now room =>
    rw [(sessions_shelve _ _ _).length_eq, List.length_cons, sessions_mapDesk]
    exact room isBounded
  | @waiting inner pending ready same room fresh =>
    subst same
    change (inner.queue.sessions ++ (pending ++ [ready])).length ≤ _
    rw [← List.append_assoc, List.length_append]
    exact room
  | turnedAway => exact fit
  | _ =>
    rw [sessions_mapDesk]
    exact fit

end Returned

end Pool
end SessionPooling
