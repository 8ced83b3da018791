import SessionPooling.Proofs.Deletions
import SessionPooling.Proofs.PoolStore
import SessionPooling.Proofs.Provision

/-! Emptying, flushing and filling a pool, and what becomes of its sessions. -/
namespace SessionPooling
variable {σ : Type} [Service σ]

theorem FixedPool.clear_hears (pool : FixedPool) :
    (pool.clear (σ := Recorder σ)).Hears fun r heard =>
      r.2 = { pool with stored := [] } ∧ Session.Drained pool.stored r.1 heard := by
  rw [clear_eq]
  exact pool.desk.dismissAll_drained pool.stored _

theorem BurstyPool.clear_hears (pool : BurstyPool) :
    (pool.clear (σ := Recorder σ)).Hears fun r heard =>
      r.2 = { pool with stored := [] } ∧ Session.Drained pool.stored r.1 heard := by
  rw [clear_eq]
  exact pool.desk.dismissAll_drained pool.stored _

theorem PingingPool.clear_hears (pool : PingingPool) :
    (pool.clear (σ := Recorder σ)).Hears fun r heard =>
      r.2 = { pool with queue := .empty } ∧ Session.Drained pool.queue.sessions r.1 heard := by
  rw [clear_eq]
  exact pool.desk.dismissAll_drained pool.queue.sessions _

/-- The second queue is emptied however it went with the first. -/
theorem TransactionPingingPool.clear_hears (pool : TransactionPingingPool) :
    (pool.clear (σ := Recorder σ)).Hears fun r heard =>
      r.2 = ⟨{ pool.inner with queue := .empty }, []⟩ ∧
        Session.Drained (pool.inner.queue.sessions ++ pool.pending) r.1 heard := by
  rw [clear_eq]
  refine .bind pool.inner.clear_hears ?_
  rintro ⟨queued, inner⟩ heard ⟨rfl, drained⟩
  refine .bind (Desk.deleteAll_drained _ pool.pending) fun waiting more drainedMore => ?_
  exact .pure ⟨rfl, drained.append drainedMore⟩

namespace Pool

/-- A pool without any of its sessions. -/
def emptied : Pool → Pool
  | fixed pool => fixed { pool with stored := [] }
  | bursty pool => bursty { pool with stored := [] }
  | pinging pool => pinging { pool with queue := .empty }
  | transactionPinging pool => transactionPinging ⟨{ pool.inner with queue := .empty }, []⟩

@[simp] theorem sessions_emptied (pool : Pool) : pool.emptied.sessions = [] := by
  cases pool <;> rfl

@[simp] theorem desk_emptied (pool : Pool) : pool.emptied.desk = pool.desk := by
  cases pool <;> rfl

theorem kin_emptied (pool : Pool) : pool.Kin pool.emptied := by
  cases pool <;> exact ⟨rfl, rfl⟩

theorem clear_drained (pool : Pool) :
    (pool.clear (σ := Recorder σ)).Hears fun r heard =>
      r.2 = pool.emptied ∧ Session.Drained pool.sessions r.1 heard := by
  cases pool with
  | fixed pool =>
    exact .map (pool.clear_hears.mono fun _ _ ⟨same, drained⟩ => ⟨congrArg fixed same, drained⟩)
  | bursty pool =>
    exact .map (pool.clear_hears.mono fun _ _ ⟨same, drained⟩ => ⟨congrArg bursty same, drained⟩)
  | pinging pool =>
    exact .map (pool.clear_hears.mono fun _ _ ⟨same, drained⟩ => ⟨congrArg pinging same, drained⟩)
  | transactionPinging pool =>
    exact .map (pool.clear_hears.mono fun _ _ ⟨same, drained⟩ =>
      ⟨congrArg transactionPinging same, drained⟩)

structure Cleared (pool after : Pool) (heard : List Exchange) : Prop where
  sessions : after.sessions = []
  desk : after.desk = pool.desk
  kin : pool.Kin after
  only : Session.OnlyDeletes heard

theorem clear_cleared (pool : Pool) :
    (pool.clear (σ := Recorder σ)).Hears fun r heard => pool.Cleared r.2 heard := by
  refine pool.clear_drained.mono fun r heard ⟨same, drained⟩ => ?_
  rw [same]
  exact ⟨pool.sessions_emptied, pool.desk_emptied, pool.kin_emptied, drained.only⟩

end Pool

namespace TransactionPingingPool

inductive Flushed : List Session → PingingPool → Except Failure Nat →
    TransactionPingingPool → Prop where
  | done {inner} (moved : Nat) : Flushed [] inner (.ok moved) ⟨inner, []⟩
  | refused {session rest inner} (full : inner.size ≤ inner.queue.size) (e) :
      Flushed (session :: rest) inner (.error e) ⟨inner, rest⟩
  | moved {session rest inner result after} (now : Instant)
      (room : inner.queue.size < inner.size)
      (others : Flushed rest (inner.shelve now session) result after) :
      Flushed (session :: rest) inner result after

omit [Service σ] in
theorem flush_flushed (pending : List Session) :
    ∀ (moved : Nat) (inner : PingingPool), (flush (σ := Recorder σ) pending moved inner).Hears
      fun r heard => heard = [] ∧ Flushed pending inner r.1 r.2 := by
  induction pending with
  | nil => exact fun moved inner => .pure ⟨rfl, .done moved⟩
  | cons session rest ih =>
    intro moved inner
    refine .bind (inner.enqueue_enqueued session) ?_
    rintro result _ ⟨rfl, enqueued⟩
    cases enqueued with
    | stored now room => exact (ih (moved + 1) _).mono fun r heard ⟨silent, others⟩ =>
        ⟨silent, .moved now room others⟩
    | refused full => exact .pure ⟨rfl, .refused full _⟩

omit [Service σ] in
theorem beginPending_flushed (pool : TransactionPingingPool) :
    (pool.beginPending (σ := Recorder σ)).Hears fun r heard =>
      heard = [] ∧ Flushed pool.pending pool.inner r.1 r.2 := by
  refine .bind (flush_flushed pool.pending 0 pool.inner) ?_
  rintro ⟨result, after⟩ _ ⟨rfl, flushed⟩
  cases result with
  | error e => exact .pure ⟨rfl, flushed⟩
  | ok moved =>
    dsimp only
    split
    · exact .pure ⟨rfl, flushed⟩
    · exact .silently (fun _ => rfl) fun _ => .pure ⟨rfl, flushed⟩

namespace Flushed
variable {pending : List Session} {inner : PingingPool} {result : Except Failure Nat}
  {after : TransactionPingingPool}

theorem desk (flushed : Flushed pending inner result after) : after.inner.desk = inner.desk := by
  induction flushed with
  | done => rfl
  | refused => rfl
  | moved now room others ih => exact ih

theorem size (flushed : Flushed pending inner result after) : after.inner.size = inner.size := by
  induction flushed with
  | done => rfl
  | refused => rfl
  | moved now room others ih => exact ih

theorem fits (flushed : Flushed pending inner result after)
    (fit : inner.queue.size ≤ inner.size) : after.inner.queue.size ≤ after.inner.size := by
  induction flushed with
  | done => exact fit
  | refused => exact fit
  | moved now room others ih =>
    exact ih (Nat.le_trans (Nat.le_of_eq (PingQueue.size_insert _ _)) room)

theorem pending_of_ok {moved : Nat} (flushed : Flushed pending inner (.ok moved) after) :
    after.pending = [] := by
  generalize same : Except.ok moved = result at flushed
  induction flushed with
  | done => rfl
  | refused => cases same
  | moved now room others ih => exact ih same

/-- Moving keeps every session, unless the queue refuses one. -/
theorem turnover (flushed : Flushed pending inner result after) :
    Turnover True (inner.queue.size + pending.length ≤ inner.size ∨ ∃ moved, result = .ok moved)
      (inner.queue.sessions ++ pending) (after.inner.queue.sessions ++ after.pending) [] := by
  induction flushed with
  | done => exact .refl _
  | @refused session rest inner full e =>
    refine .dropped ((List.sublist_cons_self session rest).append_left _) rfl fun _ kept => ?_
    obtain fit | ⟨moved, ended⟩ := kept
    · rw [List.length_cons] at fit
      omega
    · cases ended
  | @moved session rest inner result after now room others ih =>
    have queued : (inner.shelve now session).queue.sessions.Perm
        (session :: inner.queue.sessions) := PingQueue.sessions_insert _ _
    refine (ih.mono id fun _ kept => kept.imp_left fun fit => ?_).congr ?_ (.refl _)
    · exact ((queued.append_right rest).trans List.perm_middle.symm).map _
    · have size : (inner.shelve now session).queue.size = inner.queue.size + 1 :=
        PingQueue.size_insert _ _
      change (inner.shelve now session).queue.size + rest.length ≤ inner.size
      rw [List.length_cons] at fit
      omega

theorem length_le (flushed : Flushed pending inner result after) :
    after.inner.queue.size + after.pending.length ≤ inner.queue.size + pending.length := by
  simpa [creationsRefused] using flushed.turnover.atMost trivial

theorem size_of_ok {moved : Nat} (flushed : Flushed pending inner (.ok moved) after) :
    after.inner.queue.size = inner.queue.size + pending.length := by
  simpa [creationsRefused, flushed.pending_of_ok] using
    flushed.turnover.exact trivial (.inr ⟨moved, rfl⟩)

end Flushed
end TransactionPingingPool

namespace Pool

/-- How flushing the sessions that wait goes, where a pool has such. -/
inductive Settled : Pool → Except Failure Nat → Pool → Prop where
  | nothing {pool} : Settled pool (.ok 0) pool
  | flushed {inner pending result after}
      (flushed : TransactionPingingPool.Flushed pending inner result after) :
      Settled (.transactionPinging ⟨inner, pending⟩) result (.transactionPinging after)

omit [Service σ] in
theorem beginPending_settled (pool : Pool) :
    (pool.beginPending (σ := Recorder σ)).Hears fun r heard =>
      heard = [] ∧ Settled pool r.1 r.2 := by
  cases pool with
  | transactionPinging pool =>
    refine .bind pool.beginPending_flushed ?_
    rintro ⟨result, after⟩ _ ⟨rfl, flushed⟩
    exact .pure ⟨rfl, .flushed flushed⟩
  | _ => exact .pure ⟨rfl, .nothing⟩

namespace Settled
variable {pool after : Pool} {result : Except Failure Nat}

theorem desk (settled : Settled pool result after) : after.desk = pool.desk := by
  cases settled with
  | nothing => rfl
  | flushed flushed => exact flushed.desk

theorem kin (settled : Settled pool result after) : pool.Kin after := by
  cases settled with
  | nothing => exact .refl _
  | flushed flushed => exact ⟨flushed.size, rfl⟩

theorem turnover (settled : Settled pool result after) :
    Turnover pool.bounded pool.Ready pool.sessions after.sessions [] := by
  cases settled with
  | nothing => exact .refl _
  | flushed flushed =>
    refine flushed.turnover.mono (fun _ => trivial) fun _ ready => .inl ?_
    have fit := ready.fits
    rw [sessions, List.length_append, PingQueue.length_sessions] at fit
    exact fit

end Settled

/-- What filling a pool does. -/
structure Bound (pool : Pool) (backend : BackendId) (result : Except Failure Unit) (after : Pool)
    (heard : List Exchange) : Prop where
  desk : after.desk = pool.desk.bind backend
  kin : pool.Kin after
  quiet : creationsRefused heard = 0
  turnover : Turnover False True pool.sessions after.sessions heard
  fits : pool.bounded → Desk.Measured heard → pool.sessions.length ≤ pool.capacity →
    after.sessions.length ≤ pool.capacity
  stocked : pool.Stocked → after.Stocked
  full : pool.bounded → pool.stats.available ≤ pool.capacity → result = .ok () →
    after.sessions.length = pool.capacity

end Pool

/-- What stays as it is while a stack is filled. -/
structure FixedPool.FilledFrom (start pool : FixedPool) : Prop where
  desk : pool.desk = start.desk
  size : pool.size = start.size
  fits : start.stored.length ≤ start.size → pool.stored.length ≤ start.size

structure PingingPool.FilledFrom (start pool : PingingPool) : Prop where
  desk : pool.desk = start.desk
  size : pool.size = start.size
  fits : start.queue.size ≤ start.size → pool.queue.size ≤ start.size

namespace FixedPool

omit [Service σ] in
theorem push_storesInto (start : FixedPool) :
    Desk.StoresInto (σ := σ) FixedPool.stored start.FilledFrom
      (fun session pool => pure (pool.push session)) := by
  refine fun session pool from_ => .pure ⟨rfl, fun next pushed => ?_⟩
  unfold push at pushed
  split at pushed
  · cases pushed
  next room =>
    cases pushed
    refine ⟨⟨from_.desk, from_.size, fun _ => ?_⟩, .refl _⟩
    rw [← from_.size]
    exact Nat.lt_of_not_le room

theorem bind_bound (pool : FixedPool) (backend : BackendId) :
    (pool.bind (σ := Recorder σ) backend).Hears fun r heard =>
      (Pool.fixed pool).Bound backend r.1 (.fixed r.2) heard := by
  refine (Desk.provision_filled push_byClock
    (push_storesInto { pool with desk := pool.desk.bind backend }) _ _ _ ⟨rfl, rfl, id⟩).mono ?_
  rintro ⟨result, after⟩ heard ⟨kept, filled⟩
  refine ⟨kept.desk, ⟨kept.size, rfl⟩, filled.quiet, filled.turnover, fun _ _ fit => kept.fits fit,
    fun stocked _ => ?_, fun _ fit ok => ?_⟩
  · change after.stored.length ≤ after.size
    rw [kept.size]
    exact kept.fits (stocked rfl)
  have least : pool.size - pool.stored.length + pool.stored.length ≤ after.stored.length :=
    filled.le_length ok
  have most : after.stored.length ≤ pool.size := kept.fits fit
  change after.stored.length = pool.size
  omega

end FixedPool

namespace PingingPool

omit [Service σ] in
theorem enqueue_storesInto (start : PingingPool) :
    Desk.StoresInto (σ := σ) (fun pool => pool.queue.sessions) start.FilledFrom enqueue := by
  refine fun session pool from_ => (pool.enqueue_enqueued session).mono ?_
  rintro result _ ⟨rfl, enqueued⟩
  refine ⟨rfl, fun next stored => ?_⟩
  cases enqueued with
  | refused full => cases stored
  | stored now room =>
    cases stored
    refine ⟨⟨from_.desk, from_.size, fun _ => ?_⟩, PingQueue.sessions_insert _ _⟩
    rw [← from_.size]
    exact Nat.le_trans (Nat.le_of_eq (PingQueue.size_insert _ _)) room

/-- What filling a queue does, but for the places that are reserved. -/
structure Filled (pool : PingingPool) (backend : BackendId) (reserved : Nat)
    (result : Except Failure Unit) (after : PingingPool) (heard : List Exchange) : Prop where
  kept : ({ pool with desk := pool.desk.bind backend } : PingingPool).FilledFrom after
  filled : Desk.Filled (fun pool : PingingPool => pool.queue.sessions)
    (pool.size - (pool.queue.size + reserved)) { pool with desk := pool.desk.bind backend } after
    (result = .ok ()) heard

theorem bindReserving_filled (pool : PingingPool) (backend : BackendId) (reserved : Nat) :
    (pool.bindReserving (σ := Recorder σ) backend reserved).Hears fun r heard =>
      pool.Filled backend reserved r.1 r.2 heard := by
  refine (Desk.provision_filled enqueue_byClock
    (enqueue_storesInto { pool with desk := pool.desk.bind backend }) _ _ _ ⟨rfl, rfl, id⟩).mono ?_
  exact fun r heard ⟨kept, filled⟩ => ⟨kept, filled⟩

namespace Filled
variable {pool after : PingingPool} {backend : BackendId} {reserved : Nat}
  {result : Except Failure Unit} {heard : List Exchange}

theorem fits (filled : pool.Filled backend reserved result after heard)
    (fit : pool.queue.size ≤ pool.size) : after.queue.size ≤ pool.size :=
  filled.kept.fits fit

theorem spares (filled : pool.Filled backend reserved result after heard)
    (measured : Desk.Measured heard) (fit : pool.queue.size + reserved ≤ pool.size) :
    after.queue.size + reserved ≤ pool.size := by
  have most := filled.filled.length_le measured
  simp only [PingQueue.length_sessions] at most
  omega

theorem fills (filled : pool.Filled backend reserved (.ok ()) after heard) :
    pool.size ≤ after.queue.size + reserved := by
  have least := filled.filled.le_length rfl
  simp only [PingQueue.length_sessions] at least
  omega

end Filled

theorem bind_bound (pool : PingingPool) (backend : BackendId) :
    (pool.bind (σ := Recorder σ) backend).Hears fun r heard =>
      (Pool.pinging pool).Bound backend r.1 (.pinging r.2) heard := by
  refine (bindReserving_filled pool backend 0).mono ?_
  rintro ⟨result, after⟩ heard filled
  have length : (Pool.pinging after).sessions.length = after.queue.size :=
    after.queue.length_sessions
  refine ⟨filled.kept.desk, ⟨filled.kept.size, rfl⟩, filled.filled.quiet, filled.filled.turnover,
    fun _ _ fit => ?_, fun stocked _ => ?_, fun _ fit ok => ?_⟩
  · rw [length]
    exact filled.fits (pool.queue.length_sessions ▸ fit)
  · change after.queue.size ≤ after.size
    rw [filled.kept.size]
    exact filled.fits (stocked rfl)
  · dsimp only at ok
    subst ok
    rw [length]
    exact Nat.le_antisymm (filled.fits fit) filled.fills

end PingingPool

namespace TransactionPingingPool

/-- The places of the sessions that wait are reserved while the queue is filled, and then taken
by those sessions. -/
theorem bind_bound (pool : TransactionPingingPool) (backend : BackendId) :
    (pool.bind (σ := Recorder σ) backend).Hears fun r heard =>
      (Pool.transactionPinging pool).Bound backend r.1 (.transactionPinging r.2) heard := by
  obtain ⟨inner, pending⟩ := pool
  have total (inner : PingingPool) (pending : List Session) :
      (Pool.transactionPinging ⟨inner, pending⟩).sessions.length =
        inner.queue.size + pending.length := by
    simp [Pool.sessions]
  refine .bind (inner.bindReserving_filled backend pending.length) ?_
  rintro ⟨result, filled⟩ heard fills
  -- Those that wait stand by while the queue is filled.
  have grown := fills.filled.turnover.append_right pending
  cases result with
  | error e =>
    refine .pure ⟨fills.kept.desk, ⟨fills.kept.size, rfl⟩, fills.filled.quiet, grown,
      fun _ measured fit => ?_, fun stocked _ => ?_, fun _ _ ok => ?_⟩
    · rw [total] at fit ⊢
      exact fills.spares measured fit
    · change filled.queue.size ≤ filled.size
      rw [fills.kept.size]
      exact fills.fits (stocked rfl)
    · cases ok
  | ok _ =>
    refine .bind (beginPending_flushed ⟨filled, pending⟩) ?_
    rintro ⟨moved, after⟩ _ ⟨rfl, flushed⟩
    replace flushed : Flushed pending filled moved after := flushed
    replace fills : inner.Filled backend pending.length (.ok ()) filled heard := fills
    have size : after.inner.size = inner.size := flushed.size.trans fills.kept.size
    have moving := grown.trans (flushed.turnover.mono False.elim False.elim)
    rw [List.append_nil] at moving ⊢
    have most (fit : inner.queue.size ≤ inner.size) : after.inner.queue.size ≤ inner.size := by
      have filledFits : filled.queue.size ≤ filled.size := by
        rw [fills.kept.size]
        exact fills.fits fit
      exact size ▸ flushed.fits filledFits
    refine .pure ⟨flushed.desk.trans fills.kept.desk, ⟨size, rfl⟩, fills.filled.quiet, moving,
      fun _ measured fit => ?_, fun stocked _ => ?_, fun _ fit ok => ?_⟩
    · rw [total] at fit
      have spared := fills.spares measured fit
      rw [total]
      exact Nat.le_trans flushed.length_le spared
    · change after.inner.queue.size ≤ after.inner.size
      rw [size]
      exact most (stocked rfl)
    · cases moved with
      | error e => cases ok
      | ok count =>
        rw [total, flushed.pending_of_ok]
        exact Nat.le_antisymm (most fit) (flushed.size_of_ok ▸ fills.fills)

end TransactionPingingPool

theorem Pool.bind_bound (pool : Pool) (backend : BackendId) :
    (pool.bind (σ := Recorder σ) backend).Hears fun r heard =>
      pool.Bound backend r.1 r.2 heard := by
  cases pool with
  | fixed pool => exact .map (pool.bind_bound backend)
  | bursty pool => exact .pure ⟨rfl, ⟨rfl, rfl⟩, rfl, .refl _, nofun, fun _ => nofun, nofun⟩
  | pinging pool => exact .map (pool.bind_bound backend)
  | transactionPinging pool => exact .map (pool.bind_bound backend)

end SessionPooling
