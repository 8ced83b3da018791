import SessionPooling.Pool.Pinging
import SessionPooling.Proofs.PoolPut
import SessionPooling.Proofs.Provision
import SessionPooling.Proofs.Tending

/-! What gets into a queue by due time, while a clock that is set by hand stands still. Whatever is
done to the queue, each entry in it was there before, or is due one interval from now; and pinging
all that is due leaves nothing due, if it succeeds. -/
namespace SessionPooling
variable {σ : Type}

/-- A service that was asked said that it keeps the session alive, or created it. -/
inductive Session.Renewed (session : Session) (heard : List Exchange) : Prop where
  | pinged {creation} (known : session.creation = some creation)
      (kept : ⟨session.backend, .ping creation.id, .ok ()⟩ ∈ heard) : Renewed session heard
  | created {creation} (known : session.creation = some creation)
      (created : ⟨session.backend, .create session.template, .ok creation.id⟩ ∈ heard) :
      Renewed session heard

theorem Session.Renewed.mono {session : Session} {heard more : List Exchange}
    (renewed : session.Renewed heard) (fewer : heard ⊆ more) : session.Renewed more := by
  cases renewed with
  | pinged known kept => exact .pinged known (fewer kept)
  | created known created => exact .created known (fewer created)

theorem Desk.Refreshed.renewed {desk : Desk} {popped session : Session} {heard : List Exchange}
    (refreshed : desk.Refreshed popped (.fit session) heard) : session.Renewed heard := by
  cases refreshed with
  | pinged pinged => cases pinged with
    | kept known time => exact .pinged known (List.mem_singleton_self _)
  | replaced notFound pinged created => cases created with
    | created bound role id time =>
      exact .created rfl (List.mem_append_right _ (List.mem_singleton_self _))

namespace PingingPool

/-- What was stored in the meantime has just arrived, for a reason, and is due one interval from
now. -/
structure Restocked (now : Instant) (arrives : Session → Prop) (before after : PingingPool) :
    Prop where
  interval : after.pingInterval = before.pingInterval
  entries : ∀ entry ∈ after.queue.entries, entry ∈ before.queue.entries ∨
    entry.due = now.after before.pingInterval ∧ arrives entry.session

namespace Restocked
variable {now : Instant} {arrives arrives' : Session → Prop} {before mid after : PingingPool}

theorem of_subset (interval : after.pingInterval = before.pingInterval)
    (fewer : after.queue.entries ⊆ before.queue.entries) : Restocked now arrives before after :=
  ⟨interval, fun _ member => .inl (fewer member)⟩

theorem refl (pool : PingingPool) : Restocked now arrives pool pool :=
  .of_subset rfl (List.Subset.refl _)

theorem trans (first : Restocked now arrives before mid)
    (second : Restocked now arrives mid after) : Restocked now arrives before after := by
  constructor
  · exact second.interval.trans first.interval
  · intro entry member
    rcases second.entries entry member with earlier | ⟨due, reason⟩
    · exact first.entries entry earlier
    · rw [first.interval] at due
      exact .inr ⟨due, reason⟩

theorem mono (restocked : Restocked now arrives before after)
    (weaker : ∀ session, arrives session → arrives' session) :
    Restocked now arrives' before after :=
  ⟨restocked.interval, fun entry member =>
    (restocked.entries entry member).imp_right fun ⟨due, reason⟩ => ⟨due, weaker _ reason⟩⟩

theorem shelve (pool : PingingPool) {session : Session} (reason : arrives session) :
    Restocked now arrives pool (pool.shelve now session) := by
  constructor
  · rfl
  · intro entry member
    rcases mem_insertPingEntry.1 member with rfl | earlier
    · exact .inr ⟨rfl, reason⟩
    · exact .inl earlier

/-- What changes nothing in the queue may come in between. -/
theorem congr {before' : PingingPool} (restocked : Restocked now arrives before after)
    (interval : before.pingInterval = before'.pingInterval) (queue : before.queue = before'.queue) :
    Restocked now arrives before' after := by
  constructor
  · exact restocked.interval.trans interval
  · rw [← interval, ← queue]
    exact restocked.entries

end Restocked

/-- Nothing in the queue is due. -/
def Refreshed (now : Instant) (pool : PingingPool) : Prop :=
  ∀ entry ∈ pool.queue.entries, now < entry.due

def overdue (now : Instant) (pool : PingingPool) : Nat :=
  pool.queue.entries.countP fun entry => decide (entry.due ≤ now)

theorem overdue_le_size (now : Instant) (pool : PingingPool) :
    pool.overdue now ≤ pool.queue.size :=
  List.countP_le_length

theorem refreshed_of_overdue {now : Instant} {pool : PingingPool} (none : pool.overdue now = 0) :
    pool.Refreshed now := by
  intro entry member
  have notDue := List.countP_eq_zero.1 none entry member
  exact Int.not_le.1 fun due => notDue (decide_eq_true due)

/-- Storing for one interval what was due makes the due ones fewer. -/
theorem overdue_shelve {now : Instant} {pool : PingingPool} {entry : PingEntry} {queue : PingQueue}
    (popped : pool.queue.pop? = some (entry, queue)) (due : entry.due ≤ now)
    (later : now < now.after pool.pingInterval) (session : Session) :
    (({ pool with queue } : PingingPool).shelve now session).overdue now + 1 =
      pool.overdue now := by
  have notDue : ¬ now.after pool.pingInterval ≤ now := Int.not_le.2 later
  have stored := (PingQueue.insertPingEntry_perm
    ⟨now.after pool.pingInterval, pool.nextSequence, session⟩ queue.entries).countP_eq
      fun entry => decide (entry.due ≤ now)
  simp only [List.countP_cons, decide_eq_false notDue] at stored
  simp only [overdue, PingQueue.entries_of_pop? popped, List.countP_cons, decide_eq_true due]
  exact congrArg (· + 1) stored

/-- How a ping goes at a time that stands still. -/
inductive PingedAt (now : Instant) (pool : PingingPool) :
    Except Failure Bool → PingingPool → List Exchange → Prop where
  | idle (refreshed : pool.Refreshed now) : PingedAt now pool (.ok false) pool []
  | renewed {entry queue session heard} (popped : pool.queue.pop? = some (entry, queue))
      (due : entry.due ≤ now) (reason : session.Renewed heard) :
      PingedAt now pool (.ok true) (({ pool with queue } : PingingPool).shelve now session) heard
  | dropped {entry queue e heard} (popped : pool.queue.pop? = some (entry, queue)) :
      PingedAt now pool (.error e) { pool with queue } heard
  | putBack {e heard} : PingedAt now pool (.error e) pool heard

theorem PingedAt.restocked {now : Instant} {pool after : PingingPool}
    {result : Except Failure Bool} {heard : List Exchange}
    (pinged : pool.PingedAt now result after heard) :
    Restocked now (·.Renewed heard) pool after := by
  cases pinged with
  | idle refreshed => exact .refl _
  | @renewed entry queue session _ popped due reason =>
    have taken : Restocked now (·.Renewed heard) pool { pool with queue } :=
      .of_subset rfl (entries_subset_of_pop? popped)
    exact taken.trans (.shelve _ reason)
  | dropped popped => exact .of_subset rfl (entries_subset_of_pop? popped)
  | putBack => exact .refl _

theorem PingedAt.refreshed {now : Instant} {pool after : PingingPool} {heard : List Exchange}
    (pinged : pool.PingedAt now (.ok false) after heard) : after.Refreshed now := by
  cases pinged with
  | idle refreshed => exact refreshed

theorem PingedAt.fewer {now : Instant} {pool after : PingingPool} {heard : List Exchange}
    (pinged : pool.PingedAt now (.ok true) after heard)
    (later : now < now.after pool.pingInterval) :
    after.overdue now + 1 = pool.overdue now := by
  cases pinged with
  | renewed popped due reason => exact overdue_shelve popped due later _

/-- On a clock that is set by hand, what is stored is stored now. -/
theorem PingedFrom.pingedAt {begun ended : Clock} {pool after : PingingPool}
    {result : Except Failure Bool} {heard : List Exchange} (still : begun.runs = false)
    (pinged : pool.PingedFrom begun ended result after heard) :
    pool.PingedAt begun.now result after heard := by
  cases pinged with
  | idle early => exact .idle early
  | stored popped due refreshed shown =>
    rw [shown.still still]
    exact .renewed popped due refreshed.renewed
  | lost popped due refreshed => exact .dropped popped
  | putBack popped due refreshed => exact .putBack
  | crowdedOut popped overfull refreshed => exact .dropped popped

/-- Storing a session at a time that stands still, if there is room. -/
theorem enqueue_at {clock : Clock} (still : clock.runs = false) (session : Session)
    (pool : PingingPool) :
    (enqueue (σ := Recorder σ) session pool).HearsFrom clock [] fun result heard ended =>
      heard = [] ∧ ended = clock ∧
        (result = .ok (pool.shelve clock.now session) ∨ ∃ e, result = .error e) := by
  intro env now
  obtain ⟨heard, grown, passes, silent, stored⟩ := enqueue_from session pool clock env now
  exact ⟨heard, grown, passes, silent, passes.still still,
    stored.imp And.right fun refused => ⟨_, refused.2⟩⟩

theorem put_restocked {clock : Clock} (still : clock.runs = false) (pool : PingingPool)
    (session : Session) :
    (pool.put (σ := Recorder σ) session).HearsFrom clock [] fun r _ _ =>
      pool.Restocked clock.now (· = session.setInUse false) r.2 := by
  refine .bind (enqueue_at still (session.setInUse false) _) ?_
  rintro result _ ended passes ⟨-, -, rfl | ⟨e, rfl⟩⟩
  · have stored : Restocked clock.now (· = session.setInUse false)
        { pool with desk := pool.desk.countIn } _ := .shelve _ rfl
    exact .pure (stored.congr rfl rfl)
  · exact .pure (.of_subset rfl (List.Subset.refl _))

/-- A session that was created as one of a batch at a time. -/
def InBatch (now : Instant) (session : Session) : Prop :=
  ∃ id backend template, session = .existing id backend template now

theorem enqueue_keepsUp_restocked (now : Instant) (start : PingingPool) :
    Desk.KeepsUp (σ := σ)
      (fun clock pool => clock.runs = false ∧ clock.now = now ∧
        start.Restocked now (InBatch now) pool) enqueue where
  lasts passes kept := by
    obtain ⟨still, rfl, restocked⟩ := kept
    rw [passes.still still]
    exact ⟨still, rfl, restocked⟩
  stores id backend template clock pool kept := by
    obtain ⟨stillAfter, shown, restocked⟩ := kept
    have still : clock.runs = false := (clock.runs_wait _).symm.trans stillAfter
    rw [Clock.wait_of_not_runs still] at shown ⊢
    apply (enqueue_at still _ pool).mono
    rintro result heard ended ⟨-, rfl, rfl | ⟨e, rfl⟩⟩ stored ok
    · cases ok
      refine ⟨still, shown, restocked.trans ?_⟩
      rw [shown]
      exact .shelve pool ⟨id, backend, template, rfl⟩
    · cases ok

variable [Service σ]

theorem bindReserving_restocked {clock : Clock} (still : clock.runs = false) (pool : PingingPool)
    (backend : BackendId) (reserved : Nat) :
    (pool.bindReserving (σ := Recorder σ) backend reserved).HearsFrom clock [] fun r _ _ =>
      pool.Restocked clock.now (InBatch clock.now) r.2 := by
  let bound : PingingPool := { pool with desk := pool.desk.bind backend }
  apply (Desk.provision_keeps enqueue_byClock (enqueue_keepsUp_restocked clock.now bound)
    bound.desk (pool.size - (pool.queue.size + reserved)) clock bound ⟨still, rfl, .refl _⟩).mono
  rintro r heard ended ⟨-, -, restocked⟩
  exact restocked.congr rfl rfl

theorem ping_pingedAt {clock : Clock} (still : clock.runs = false) (pool : PingingPool) :
    (pool.ping (σ := Recorder σ)).HearsFrom clock [] fun r heard _ =>
      pool.PingedAt clock.now r.1 r.2 heard :=
  (pool.ping_pingedFrom clock).mono fun _ _ _ pinged => pinged.pingedAt still

/-- Each round that refreshes a session leaves fewer that are due, so that with as many rounds as
there are such sessions none is left. -/
theorem pingRounds_refreshes {clock : Clock} (still : clock.runs = false) (rounds : Nat) :
    ∀ (refreshed : Nat) (pool : PingingPool),
      (pingRounds (σ := Recorder σ) rounds refreshed pool).HearsFrom clock [] fun r heard _ =>
        pool.Restocked clock.now (·.Renewed heard) r.2 ∧
          (clock.now < clock.now.after pool.pingInterval → pool.overdue clock.now ≤ rounds →
            ∀ total, r.1 = .ok total → r.2.Refreshed clock.now) := by
  induction rounds with
  | zero =>
    intro refreshed pool
    apply Act.HearsFrom.pure
    refine ⟨.refl _, fun _ fewest _ _ => ?_⟩
    exact refreshed_of_overdue (Nat.le_zero.1 fewest)
  | succ rounds ih =>
    intro refreshed pool
    refine .bind (pool.ping_pingedAt still) ?_
    rintro ⟨result, next⟩ heard mid passes pinged
    obtain rfl := passes.still still
    match result with
    | .error e => exact .pure ⟨pinged.restocked, fun _ _ _ => nofun⟩
    | .ok false => exact .pure ⟨pinged.restocked, fun _ _ _ _ => pinged.refreshed⟩
    | .ok true =>
      apply (ih (refreshed + 1) next).behind
      rintro r more ended ⟨restocked, refreshes⟩
      constructor
      · have first := pinged.restocked.mono fun session reason =>
          reason.mono (List.subset_append_left heard more)
        have rest := restocked.mono fun session reason =>
          reason.mono (List.subset_append_right heard more)
        exact first.trans rest
      · intro later fewest total ok
        have fewer : next.overdue mid.now + 1 = pool.overdue mid.now := pinged.fewer later
        rw [← pinged.restocked.interval] at later
        exact refreshes later (by omega) total ok

end PingingPool
end SessionPooling
