import SessionPooling.Proofs.QueueLine
import SessionPooling.Proofs.Timing

/-! Pinging a queue while the clock goes on: every way in which a ping can go and what is asked
meanwhile, and one ping after another until nothing is due. -/
namespace SessionPooling
variable {σ : Type}

/-- What is heard during some work is one list, also when something is said of it that does not
mind the clock. -/
theorem Act.HearsFrom.along {α : Type} {act : Act (Recorder σ) α} {clock : Clock}
    {P : α → List Exchange → Clock → Prop} {Q : α → List Exchange → Prop}
    (timed : act.HearsFrom clock [] P) (hears : act.Hears Q) :
    act.HearsFrom clock [] fun a heard ended => P a heard ended ∧ Q a heard := by
  intro env now
  obtain ⟨heard, grown, passes, holds⟩ := timed env now
  obtain ⟨more, same, also⟩ := hears env
  obtain rfl := List.append_cancel_left (grown.symm.trans same)
  exact ⟨heard, grown, passes, holds, also⟩

/-- The other way round, what holds whatever the clock shows. -/
theorem Act.Hears.anytime {α : Type} {act : Act (Recorder σ) α} {P : α → List Exchange → Prop}
    (timed : ∀ clock, act.HearsFrom clock [] fun a heard _ => P a heard) : act.Hears P := by
  intro env
  obtain ⟨heard, grown, -, holds⟩ := timed env.clock env rfl
  exact ⟨heard, grown, holds⟩

theorem Session.ping_from [Service σ] (session : Session) (clock : Clock) :
    (session.ping (σ := Recorder σ)).HearsFrom clock [] fun result heard ended =>
      session.Pinged result heard ∧ ∀ kept, result = .ok kept → clock.Spans kept.lastUse ended := by
  have timed : (session.ping (σ := Recorder σ)).HearsFrom clock [] fun result _ ended =>
      ∀ kept, result = .ok kept → clock.Spans kept.lastUse ended := by
    unfold Session.ping
    split
    · exact .pure fun _ => nofun
    · apply Act.HearsFrom.asking
      intro reply
      cases reply with
      | error e => exact .pure fun _ => nofun
      | ok _ =>
        have shown := (Clock.Passes.refl clock).spans (clock.passes_wait Clock.glance)
        refine .bind (P := fun touched _ ended => clock.Spans touched.lastUse ended)
          (.looking (.pure shown)) ?_
        intro touched heard ended passes used
        apply Act.HearsFrom.pure
        rintro _ ⟨⟩
        exact used
  exact (timed.along session.ping_pinged).mono fun _ _ _ => And.symm

theorem Desk.replace_from [Service σ] (desk : Desk) (stale : Session) (clock : Clock) :
    (desk.replace (σ := Recorder σ) stale).HearsFrom clock [] fun made heard ended =>
      desk.Created made heard ∧ ∀ session, made = .ok session → clock.Spans session.lastUse ended :=
  ((desk.replace_made stale clock).along (desk.replace_created stale)).mono
    fun _ _ _ ⟨made, created⟩ => ⟨created, fun session ok => (made session ok).used⟩

theorem PingQueue.entries_of_empty {queue : PingQueue} (empty : queue.pop? = none) :
    queue.entries = [] := by
  obtain ⟨entries, ordered⟩ := queue
  cases entries with
  | nil => rfl
  | cons entry rest => cases empty

/-- Sessions that were looked after one by one, and what was stored in the place of each. -/
inductive Desk.Tended (desk : Desk) : List Session → List Session → List Exchange → Prop where
  | nil : Tended desk [] [] []
  | cons {popped session heard stale fresh more}
      (refreshed : desk.Refreshed popped (.fit session) heard)
      (others : Tended desk stale fresh more) :
      Tended desk (popped :: stale) (session :: fresh) (heard ++ more)

/-- What is heard of a session that was looked after and not refreshed, where there was one. -/
inductive Desk.InVain (desk : Desk) : List Exchange → Prop where
  | none : InVain desk []
  | lost {popped e heard} (refreshed : desk.Refreshed popped (.lost e) heard) : InVain desk heard
  | unclear {popped e heard} (refreshed : desk.Refreshed popped (.unclear e) heard) :
      InVain desk heard

namespace PingingPool

/-- How a ping goes that is begun when the clock shows one thing and ended when it shows another. -/
inductive PingedFrom (pool : PingingPool) (begun ended : Clock) :
    Except Failure Bool → PingingPool → List Exchange → Prop where
  | idle (early : ∀ entry ∈ pool.queue.entries, begun.now < entry.due) :
      PingedFrom pool begun ended (.ok false) pool []
  | stored {entry queue session time heard} (popped : pool.queue.pop? = some (entry, queue))
      (due : entry.due ≤ begun.now)
      (refreshed : pool.desk.Refreshed entry.session (.fit session) heard)
      (shown : begun.Spans time ended) :
      PingedFrom pool begun ended (.ok true)
        (({ pool with queue } : PingingPool).shelve time session) heard
  | lost {entry queue e heard} (popped : pool.queue.pop? = some (entry, queue))
      (due : entry.due ≤ begun.now)
      (refreshed : pool.desk.Refreshed entry.session (.lost e) heard) :
      PingedFrom pool begun ended (.error e) { pool with queue } heard
  | putBack {entry queue e heard} (popped : pool.queue.pop? = some (entry, queue))
      (due : entry.due ≤ begun.now)
      (refreshed : pool.desk.Refreshed entry.session (.unclear e) heard) :
      PingedFrom pool begun ended (.error e) pool heard
  /-- A pool that held more than it has room for does not take back the session. -/
  | crowdedOut {entry queue session e heard} (popped : pool.queue.pop? = some (entry, queue))
      (overfull : pool.size < pool.queue.size)
      (refreshed : pool.desk.Refreshed entry.session (.fit session) heard) :
      PingedFrom pool begun ended (.error e) { pool with queue } heard

/-- Each session that came into a queue in the meantime was used in the meantime. -/
def UsedAnew (pool : PingingPool) (begun ended : Clock) (after : PingingPool) : Prop :=
  ∀ entry ∈ after.queue.entries,
    entry ∈ pool.queue.entries ∨ begun.Spans entry.session.lastUse ended

theorem usedAnew_of_subset {pool after : PingingPool} {begun ended : Clock}
    (fewer : after.queue.entries ⊆ pool.queue.entries) : pool.UsedAnew begun ended after :=
  fun _ member => .inl (fewer member)

theorem entries_subset_of_pop? {queue rest : PingQueue} {entry : PingEntry}
    (popped : queue.pop? = some (entry, rest)) : rest.entries ⊆ queue.entries := by
  rw [PingQueue.entries_of_pop? popped]
  exact List.subset_cons_self _ _

/-- If the first entry is not due, none is. -/
theorem early_of_first {pool : PingingPool} {entry : PingEntry} {queue : PingQueue} {now : Instant}
    (popped : pool.queue.pop? = some (entry, queue)) (early : now < entry.due) :
    ∀ other ∈ pool.queue.entries, now < other.due := by
  have ordered := pool.queue.ordered
  rw [PingQueue.entries_of_pop? popped] at ordered ⊢
  refine List.forall_mem_cons.2 ⟨early, fun other behind => ?_⟩
  have notAfter := (List.pairwise_cons.1 ordered).1 other behind
  unfold PingEntry.NotAfter at notAfter
  simp only [Instant.lt_iff] at early ⊢
  omega

/-- Storing a session after a look at the clock, if there is room. -/
theorem enqueue_from (session : Session) (pool : PingingPool) (clock : Clock) :
    (enqueue (σ := Recorder σ) session pool).HearsFrom clock [] fun result heard _ =>
      heard = [] ∧ (pool.queue.size < pool.size ∧ result = .ok (pool.shelve clock.now session) ∨
        pool.size ≤ pool.queue.size ∧ result = .error (.poolFull pool.size)) := by
  apply Act.HearsFrom.looking
  apply Act.HearsFrom.pure
  refine ⟨rfl, ?_⟩
  unfold enqueueAt
  split
  next full => exact .inr ⟨full, rfl⟩
  next room => exact .inl ⟨Nat.lt_of_not_le room, rfl⟩

theorem storeRefreshed_pingedFrom {pool : PingingPool} {entry : PingEntry} {queue : PingQueue}
    (popped : pool.queue.pop? = some (entry, queue)) {begun mid : Clock}
    (due : entry.due ≤ begun.now) (passes : begun.Passes mid) {session : Session}
    (used : begun.Spans session.lastUse mid) {asked : List Exchange}
    (refreshed : pool.desk.Refreshed entry.session (.fit session) asked) :
    (({ pool with queue } : PingingPool).storeRefreshed (σ := Recorder σ) session).HearsFrom mid
      asked fun r heard ended =>
        pool.PingedFrom begun ended r.1 r.2 heard ∧ pool.UsedAnew begun ended r.2 := by
  have fewer := entries_subset_of_pop? popped
  apply Act.HearsFrom.silently (fun _ => rfl) (fun _ => rfl)
  intro _
  refine .bind (enqueue_from session _ mid) ?_
  rintro result _ ended later ⟨rfl, ⟨-, rfl⟩ | ⟨full, rfl⟩⟩
  · rw [List.append_nil]
    refine .pure ⟨.stored popped due refreshed (passes.spans later), fun other member => ?_⟩
    rcases mem_insertPingEntry.1 member with rfl | earlier
    · exact .inr (used.later later)
    · exact .inl (fewer earlier)
  · rw [List.append_nil]
    refine .pure ⟨.crowdedOut popped ?_ refreshed, usedAnew_of_subset fewer⟩
    have size := congrArg List.length (PingQueue.entries_of_pop? popped)
    exact Nat.lt_of_lt_of_le (Nat.lt_succ_of_le full) (Nat.le_of_eq size.symm)

variable [Service σ]

theorem ping_pingedAnew (pool : PingingPool) (clock : Clock) :
    (pool.ping (σ := Recorder σ)).HearsFrom clock [] fun r heard ended =>
      pool.PingedFrom clock ended r.1 r.2 heard ∧ pool.UsedAnew clock ended r.2 := by
  have unchanged {ended : Clock} : pool.UsedAnew clock ended pool :=
    usedAnew_of_subset (List.Subset.refl _)
  unfold ping
  split
  next empty =>
    refine .pure ⟨.idle ?_, unchanged⟩
    rw [PingQueue.entries_of_empty empty]
    exact List.forall_mem_nil _
  next entry queue popped =>
    -- The entry keeps its due time and number, so it comes back to where it was.
    have requeued : ({ pool with queue } : PingingPool).requeue entry = pool := by
      simp only [requeue, PingQueue.insert_of_pop? popped]
    apply Act.HearsFrom.looking
    have looked := clock.passes_wait Clock.glance
    split
    next early =>
      rw [requeued]
      exact .pure ⟨.idle (early_of_first popped early), unchanged⟩
    next notEarly =>
      have due : entry.due ≤ clock.now := Int.not_lt.1 notEarly
      refine .bind (entry.session.ping_from _) ?_
      rintro reply heard mid passes ⟨pinged, kept⟩
      replace passes := looked.trans passes
      cases reply with
      | ok session =>
        have used := (kept session rfl).earlier looked
        exact storeRefreshed_pingedFrom popped due passes used (.pinged pinged)
      | error e =>
        dsimp only
        split
        next missing =>
          refine .bind (Desk.replace_from _ entry.session mid) ?_
          rintro replacement more ended later ⟨created, made⟩
          cases replacement with
          | error e =>
            refine .pure ⟨.lost popped due (.lost missing pinged created), ?_⟩
            exact usedAnew_of_subset (entries_subset_of_pop? popped)
          | ok session =>
            have used := (made session rfl).earlier passes
            exact storeRefreshed_pingedFrom popped due (passes.trans later) used
              (.replaced missing pinged created)
        next present =>
          rw [requeued]
          exact .pure ⟨.putBack popped due (.unclear (eq_false_of_ne_true present) pinged),
            unchanged⟩

theorem ping_pingedFrom (pool : PingingPool) (clock : Clock) :
    (pool.ping (σ := Recorder σ)).HearsFrom clock [] fun r heard ended =>
      pool.PingedFrom clock ended r.1 r.2 heard :=
  (pool.ping_pingedAnew clock).mono fun _ _ _ => And.left

/-- One ping after another, up to so many, counting those that refreshed a session. -/
inductive PingedThrough : (rounds refreshed : Nat) → PingingPool → Clock → Except Failure Nat →
    PingingPool → List Exchange → Clock → Prop where
  | finished {refreshed pool clock} :
      PingedThrough 0 refreshed pool clock (.ok refreshed) pool [] clock
  | idle {rounds refreshed pool begun after heard ended}
      (pinged : PingedFrom pool begun ended (.ok false) after heard) (passes : begun.Passes ended) :
      PingedThrough (rounds + 1) refreshed pool begun (.ok refreshed) after heard ended
  | failed {rounds refreshed pool begun e after heard ended}
      (pinged : PingedFrom pool begun ended (.error e) after heard) (passes : begun.Passes ended) :
      PingedThrough (rounds + 1) refreshed pool begun (.error e) after heard ended
  | next {rounds refreshed pool begun next heard mid result after more ended}
      (pinged : PingedFrom pool begun mid (.ok true) next heard) (passes : begun.Passes mid)
      (others : PingedThrough rounds (refreshed + 1) next mid result after more ended) :
      PingedThrough (rounds + 1) refreshed pool begun result after (heard ++ more) ended

theorem pingRounds_pingedThrough (rounds : Nat) :
    ∀ (refreshed : Nat) (pool : PingingPool) (clock : Clock),
      (pingRounds (σ := Recorder σ) rounds refreshed pool).HearsFrom clock [] fun r heard ended =>
        PingedThrough rounds refreshed pool clock r.1 r.2 heard ended := by
  induction rounds with
  | zero => exact fun refreshed pool clock => .pure .finished
  | succ rounds ih =>
    intro refreshed pool clock
    refine .bind (pool.ping_pingedFrom clock) ?_
    rintro ⟨result, next⟩ heard mid passes pinged
    match result with
    | .error e => exact .pure (.failed pinged passes)
    | .ok false => exact .pure (.idle pinged passes)
    | .ok true =>
      apply (ih (refreshed + 1) next mid).behind
      intro r more ended others
      exact .next pinged passes others

omit [Service σ]

/-- A session that leaves makes room for one that comes. -/
theorem size_shelve_of_pop? {pool : PingingPool} {entry : PingEntry} {queue : PingQueue}
    (popped : pool.queue.pop? = some (entry, queue)) (time : Instant) (session : Session) :
    (({ pool with queue } : PingingPool).shelve time session).queue.size = pool.queue.size := by
  have size := congrArg List.length (PingQueue.entries_of_pop? popped)
  exact (PingQueue.size_insert _ _).trans size.symm

/-- What a ping does to the queue: the session that it refreshed leaves and comes again, and one
that is gone for good leaves. -/
theorem PingedFrom.served {pool after : PingingPool} {begun ended : Clock}
    {result : Except Failure Bool} {heard : List Exchange}
    (pinged : pool.PingedFrom begun ended result after heard) (passes : begun.Passes ended)
    (fits : pool.queue.size ≤ pool.size) :
    ∃ stale come tended vain, heard = tended ++ vain ∧ pool.desk.Tended stale come tended ∧
      pool.desk.InVain vain ∧ Served begun.now pool come after ended.now := by
  cases pinged with
  | idle early => exact ⟨[], [], [], [], rfl, .nil, .none, .done passes.forward⟩
  | stored popped due refreshed shown =>
    refine ⟨_, _, _, [], ?_, .cons refreshed .nil, .none, ?_⟩
    · rw [List.append_nil, List.append_nil]
    · exact .leaves popped (.comes shown.notBefore (.done shown.notAfter))
  | lost popped due refreshed =>
    exact ⟨[], [], [], heard, rfl, .nil, .lost refreshed, .leaves popped (.done passes.forward)⟩
  | putBack popped due refreshed =>
    exact ⟨[], [], [], heard, rfl, .nil, .unclear refreshed, .done passes.forward⟩
  | crowdedOut popped overfull refreshed => exact (Nat.not_lt_of_le fits overfull).elim

theorem PingedThrough.served {rounds refreshed : Nat} {pool after : PingingPool}
    {begun ended : Clock} {result : Except Failure Nat} {heard : List Exchange}
    (went : PingedThrough rounds refreshed pool begun result after heard ended)
    (fits : pool.queue.size ≤ pool.size) :
    ∃ stale come tended vain, heard = tended ++ vain ∧ pool.desk.Tended stale come tended ∧
      pool.desk.InVain vain ∧ Served begun.now pool come after ended.now := by
  induction went with
  | finished => exact ⟨[], [], [], [], rfl, .nil, .none, .done (Int.le_refl _)⟩
  | idle pinged passes => exact pinged.served passes fits
  | failed pinged passes => exact pinged.served passes fits
  | next pinged passes others ih =>
    cases pinged with
    | stored popped due refreshed shown =>
      obtain ⟨stale, come, tended, vain, rfl, looked, inVain, served⟩ :=
        ih (Nat.le_trans (Nat.le_of_eq (size_shelve_of_pop? popped _ _)) fits)
      refine ⟨_, _, _, vain, (List.append_assoc _ _ _).symm, .cons refreshed looked, inVain, ?_⟩
      exact .leaves popped (.comes shown.notBefore (served.since shown.notAfter))

end PingingPool
end SessionPooling
