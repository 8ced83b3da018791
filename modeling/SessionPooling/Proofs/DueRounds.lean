import SessionPooling.Proofs.Custody
import SessionPooling.Proofs.QueueRuns

/-! Rounds of pings. A round that succeeds pings each session that was due when it began, once and
in order, and stores it again behind all that were not due; so what it comes to can be said from the
queue that it finds. However it goes, it pings no more sessions than the pool has places. -/
namespace SessionPooling
variable {σ : Type}

/-- What was pinged, and where, in the order in which it was. -/
def pingsIn (heard : List Exchange) : List (BackendId × SessionId) :=
  heard.filterMap fun
    | ⟨backend, .ping id, _⟩ => some (backend, id)
    | _ => none

theorem pingsIn_append (heard more : List Exchange) :
    pingsIn (heard ++ more) = pingsIn heard ++ pingsIn more :=
  List.filterMap_append

section
variable {desk : Desk} {popped : Session} {condition : Condition} {heard : List Exchange}

theorem Desk.Created.pingsIn_eq {made : Except Failure Session}
    (created : desk.Created made heard) : pingsIn heard = [] := by
  cases created <;> rfl

theorem Desk.Refreshed.pings_le (refreshed : desk.Refreshed popped condition heard) :
    (pingsIn heard).length ≤ 1 := by
  have once {result : Except Failure Session} {asked : List Exchange}
      (pinged : popped.Pinged result asked) : (pingsIn asked).length ≤ 1 := by
    cases pinged with
    | unborn => exact Nat.zero_le 1
    | failed => exact Nat.le_refl 1
    | kept => exact Nat.le_refl 1
  cases refreshed with
  | pinged pinged => exact once pinged
  | replaced notFound pinged created =>
    rw [pingsIn_append, created.pingsIn_eq, List.append_nil]
    exact once pinged
  | lost notFound pinged created =>
    rw [pingsIn_append, created.pingsIn_eq, List.append_nil]
    exact once pinged
  | unclear notMissing pinged => exact once pinged

/-- A session that was refreshed was pinged, also if it had to be replaced. -/
theorem Desk.Refreshed.pinged_once {session : Session}
    (refreshed : desk.Refreshed popped (.fit session) heard) :
    ∃ id, popped.id? = some id ∧ pingsIn heard = [(popped.backend, id)] := by
  cases refreshed with
  | pinged pinged => cases pinged with
    | @kept creation known => exact ⟨creation.id, congrArg (Option.map _) known, rfl⟩
  | replaced notFound pinged created =>
    rw [pingsIn_append, created.pingsIn_eq, List.append_nil]
    cases pinged with
    | unborn => cases notFound
    | @failed creation known => exact ⟨creation.id, congrArg (Option.map _) known, rfl⟩

theorem Desk.Tended.pings {stale fresh : List Session} (tended : desk.Tended stale fresh heard) :
    (pingsIn heard).map (fun (backend, id) => (backend, some id)) =
      stale.map Session.handle := by
  induction tended with
  | nil => rfl
  | @cons popped session heard stale fresh more refreshed others ih =>
    obtain ⟨id, name, pinged⟩ := refreshed.pinged_once
    have handle : popped.handle = (popped.backend, some id) := congrArg (Prod.mk _) name
    rw [pingsIn_append, pinged, List.map_append, ih]
    exact congrArg (· :: stale.map Session.handle) handle.symm

end

/-- What is left of some entries does not mind an entry that does not belong to it. -/
theorem filter_insertPingEntry_of_not {keep : PingEntry → Bool} {entry : PingEntry}
    (left : keep entry = false) (entries : List PingEntry) :
    (insertPingEntry entry entries).filter keep = entries.filter keep := by
  induction entries with
  | nil => simp [insertPingEntry, left]
  | cons head rest ih =>
    unfold insertPingEntry
    split
    · exact List.filter_cons_of_neg (ne_true_of_eq_false left)
    · rw [List.filter_cons, List.filter_cons, ih]

namespace PingingPool

/-- The entries that are due, in the order in which they are. -/
def dueEntries (now : Instant) (pool : PingingPool) : List PingEntry :=
  pool.queue.entries.filter fun entry => decide (entry.due ≤ now)

def laterEntries (now : Instant) (pool : PingingPool) : List PingEntry :=
  pool.queue.entries.filter fun entry => !decide (entry.due ≤ now)

/-- A round in which each session that was due is refreshed once: it is still there, or another in
its place, under the next number and due one interval from now, and no other entry has changed. -/
structure RoundDone (now : Instant) (before after : PingingPool) (heard : List Exchange)
    (renewed : List PingEntry) : Prop where
  tended : before.desk.Tended ((before.dueEntries now).map (·.session)) (renewed.map (·.session))
    heard
  due : ∀ entry ∈ renewed, entry.due = now.after before.pingInterval
  numbered : renewed.map (·.sequence) =
    List.range' before.nextSequence (before.dueEntries now).length
  entries : after.queue.entries.Perm (renewed ++ before.laterEntries now)

section
variable {pool after : PingingPool} {now : Instant} {heard : List Exchange} {entry : PingEntry}
  {queue : PingQueue}

theorem dueEntries_of_popped (popped : pool.queue.pop? = some (entry, queue))
    (due : entry.due ≤ now) :
    pool.dueEntries now = entry :: ({ pool with queue } : PingingPool).dueEntries now ∧
      pool.laterEntries now = ({ pool with queue } : PingingPool).laterEntries now := by
  have isDue := decide_eq_true due
  rw [dueEntries, laterEntries, PingQueue.entries_of_pop? popped]
  constructor
  · exact List.filter_cons_of_pos isDue
  · refine List.filter_cons_of_neg ?_
    simp only [isDue, Bool.not_true, Bool.false_eq_true, not_false_eq_true]

theorem dueEntries_shelve (later : now < now.after pool.pingInterval) (session : Session) :
    (pool.shelve now session).dueEntries now = pool.dueEntries now ∧
      ((pool.shelve now session).laterEntries now).Perm
        (⟨now.after pool.pingInterval, pool.nextSequence, session⟩ :: pool.laterEntries now) := by
  have notDue : decide (now.after pool.pingInterval ≤ now) = false :=
    decide_eq_false (Int.not_le.2 later)
  constructor
  · exact filter_insertPingEntry_of_not notDue _
  · refine ((PingQueue.insertPingEntry_perm _ _).filter _).trans (.of_eq ?_)
    refine List.filter_cons_of_pos ?_
    simp only [notDue, Bool.not_false]

theorem roundDone_of_none (none : pool.dueEntries now = []) : RoundDone now pool pool [] [] := by
  refine ⟨?_, List.forall_mem_nil _, ?_, ?_⟩
  · rw [none]
    exact .nil
  · rw [none]
    rfl
  · have all := List.filter_append_perm (fun entry => decide (entry.due ≤ now)) pool.queue.entries
    rw [dueEntries] at none
    rw [none] at all
    exact all.symm

/-- One session is refreshed, and then the others that are due. -/
theorem RoundDone.cons {session : Session} {more : List Exchange} {renewed : List PingEntry}
    (later : now < now.after pool.pingInterval) (popped : pool.queue.pop? = some (entry, queue))
    (due : entry.due ≤ now)
    (refreshed : pool.desk.Refreshed entry.session (.fit session) heard)
    (others : RoundDone now (({ pool with queue } : PingingPool).shelve now session) after more
      renewed) :
    RoundDone now pool after (heard ++ more)
      (⟨now.after pool.pingInterval, pool.nextSequence, session⟩ :: renewed) := by
  obtain ⟨tended, dueAll, numbered, entries⟩ := others
  obtain ⟨front, rest⟩ := dueEntries_of_popped popped due
  obtain ⟨stillDue, notDue⟩ := @dueEntries_shelve { pool with queue } now later session
  rw [stillDue] at tended numbered
  refine ⟨?_, ?_, ?_, ?_⟩
  · rw [front]
    exact .cons refreshed tended
  · exact List.forall_mem_cons.2 ⟨rfl, dueAll⟩
  · rw [front, List.length_cons, List.range'_succ]
    exact congrArg _ numbered
  · rw [rest]
    exact entries.trans ((notDue.append_left renewed).trans List.perm_middle)

end

variable {rounds refreshed : Nat} {pool after : PingingPool} {begun ended : Clock}
  {heard : List Exchange}

theorem PingedThrough.forward {result : Except Failure Nat}
    (went : PingedThrough rounds refreshed pool begun result after heard ended) :
    begun.now ≤ ended.now := by
  induction went with
  | finished => exact Int.le_refl _
  | idle pinged passes => exact passes.forward
  | failed pinged passes => exact passes.forward
  | next pinged passes others ih => exact Int.le_trans passes.forward ih

theorem PingedFrom.pings_le {result : Except Failure Bool}
    (pinged : pool.PingedFrom begun ended result after heard) : (pingsIn heard).length ≤ 1 := by
  cases pinged with
  | idle => exact Nat.zero_le 1
  | stored popped due refreshed => exact refreshed.pings_le
  | lost popped due refreshed => exact refreshed.pings_le
  | putBack popped due refreshed => exact refreshed.pings_le
  | crowdedOut popped overfull refreshed => exact refreshed.pings_le

/-- However the pings go, there are no more of them than rounds. -/
theorem PingedThrough.pings_le {result : Except Failure Nat}
    (went : PingedThrough rounds refreshed pool begun result after heard ended) :
    (pingsIn heard).length ≤ rounds ∧ ∀ total, result = .ok total → total ≤ refreshed + rounds := by
  induction went with
  | finished => exact ⟨Nat.le_refl 0, fun total same => by cases same; exact Nat.le_refl _⟩
  | idle pinged passes =>
    refine ⟨Nat.le_trans pinged.pings_le (Nat.le_add_left 1 _), fun total same => ?_⟩
    cases same
    exact Nat.le_add_right _ _
  | failed pinged passes => exact ⟨Nat.le_trans pinged.pings_le (Nat.le_add_left 1 _), nofun⟩
  | next pinged passes others ih =>
    obtain ⟨fewer, counted⟩ := ih
    have once := pinged.pings_le
    refine ⟨?_, fun total same => ?_⟩
    · rw [pingsIn_append, List.length_append]
      omega
    · have := counted total same
      omega

/-- By induction on the rounds: what is stored again is not due, so each round leaves the others
that were due, and has only its own place taken. -/
theorem PingedThrough.roundDone {result : Except Failure Nat}
    (went : PingedThrough rounds refreshed pool begun result after heard ended) :
    ∀ {total : Nat}, result = .ok total → ended.now = begun.now →
      begun.now < begun.now.after pool.pingInterval →
      (pool.dueEntries begun.now).length ≤ rounds →
      total = refreshed + (pool.dueEntries begun.now).length ∧
        ∃ renewed, RoundDone begun.now pool after heard renewed := by
  have ofNone {refreshed : Nat} {pool : PingingPool} {now : Instant}
      (none : pool.dueEntries now = []) :
      refreshed = refreshed + (pool.dueEntries now).length ∧
        ∃ renewed, RoundDone now pool pool [] renewed := by
    refine ⟨?_, [], roundDone_of_none none⟩
    rw [none]
    rfl
  induction went with
  | finished =>
    rintro total ⟨⟩ - later enough
    exact ofNone (List.length_eq_zero_iff.1 (Nat.le_zero.1 enough))
  | idle pinged passes =>
    rintro total ⟨⟩ - later enough
    cases pinged with
    | idle early =>
      refine ofNone (List.filter_eq_nil_iff.2 fun entry member due => ?_)
      exact Int.not_le.2 (early entry member) (of_decide_eq_true due)
  | failed => nofun
  | @next rounds refreshed pool begun next heard mid result after more ended pinged passes others
      ih =>
    intro total ok still later enough
    cases pinged with
    | @stored entry queue session time _ popped due looked shown =>
      -- No time passes in the first round if none does until the end.
      have noLater : mid.now ≤ begun.now := still ▸ others.forward
      have midNow : mid.now = begun.now := Instant.ext (Int.le_antisymm noLater passes.forward)
      obtain rfl : time = begun.now :=
        Instant.ext (Int.le_antisymm (Int.le_trans shown.notAfter noLater) shown.notBefore)
      rw [midNow] at ih
      obtain ⟨front, -⟩ := dueEntries_of_popped popped due
      obtain ⟨stillDue, -⟩ := @dueEntries_shelve { pool with queue } begun.now later session
      rw [stillDue] at ih
      rw [front, List.length_cons] at enough ⊢
      obtain ⟨counted, renewed, roundDone⟩ := ih ok still later (Nat.le_of_succ_le_succ enough)
      refine ⟨?_, _, roundDone.cons later popped due looked⟩
      omega

/-- Nothing is due then: what was refreshed is due one interval from now, and the others were not
due before. -/
theorem RoundDone.noneDue {now : Instant} {renewed : List PingEntry}
    (roundDone : RoundDone now pool after heard renewed)
    (later : now < now.after pool.pingInterval) :
    ∀ entry ∈ after.queue.entries, now < entry.due := by
  intro entry member
  rcases List.mem_append.1 (roundDone.entries.subset member) with fresh | old
  · rw [roundDone.due entry fresh]
    exact later
  · have notDue := (List.mem_filter.1 old).2
    rw [Bool.not_eq_true', decide_eq_false_iff_not] at notDue
    exact Int.not_le.1 notDue

end PingingPool

namespace Lending
variable [Service σ]

/-- In every run of a pool around a queue, a round of pings stops after as many pings as the pool
has places. If it succeeds, no time passes meanwhile, and an interval is not lost at the last
instant, it refreshes as many sessions as were due, each once and in order, those sessions stand in
the queue or new ones in their place, under numbers above all that were given before and due one
interval from now, all other entries are what they were, and nothing is due. -/
theorem play_refreshes_each_once (strangers : List Session) (parts : PoolParts) (clock : Clock)
    (services : σ) (ops : List (Op σ)) (pinging : parts.kind = .pinging) :
    let l := (startAmong strangers parts clock services).play ops
    let now := l.env.clock.now
    ∃ pool, l.pool = .pinging pool ∧
      let went := pool.pingAllDue l.env
      ∃ heard, went.2.service.heard = l.heard ++ heard ∧
        (pingsIn heard).length ≤ parts.places ∧
        (∀ total, went.1.1 = .ok total → total ≤ parts.places) ∧
        ∀ total, went.1.1 = .ok total → went.2.clock.now = now →
          now < now.after parts.interval →
          total = (pool.dueEntries now).length ∧
          (pingsIn heard).map (fun (backend, id) => (backend, some id)) =
            (pool.dueEntries now).map (·.session.handle) ∧
          (∃ renewed, pool.RoundDone now went.1.2 heard renewed) ∧
          (∀ entry ∈ pool.queue.entries, entry.sequence < pool.nextSequence) ∧
          ∀ entry ∈ went.1.2.queue.entries, now < entry.due := by
  intro l now
  obtain ⟨fresh, begun, -⟩ := startAmong_queues strangers clock services pinging
  obtain ⟨pool, queues⟩ := begun.play ops
  refine ⟨pool, queues.same, ?_⟩
  intro went
  obtain ⟨heard, grown, -, pinged⟩ :=
    PingingPool.pingRounds_pingedThrough pool.size 0 pool l.env.clock l.env rfl
  obtain ⟨fewer, counted⟩ := pinged.pings_le
  rw [queues.size] at fewer
  refine ⟨heard, grown, fewer, fun total ok => ?_, fun total ok still later => ?_⟩
  · have atMost := counted total ok
    rwa [Nat.zero_add, queues.size] at atMost
  · rw [← queues.interval] at later
    have enough : (pool.dueEntries now).length ≤ pool.size :=
      Nat.le_trans (List.length_filter_le _ _) queues.fits
    obtain ⟨refreshed, renewed, roundDone⟩ := pinged.roundDone ok still later enough
    rw [Nat.zero_add] at refreshed
    have pings := roundDone.tended.pings
    rw [List.map_map] at pings
    exact ⟨refreshed, pings, ⟨renewed, roundDone⟩, queues.numbered.fewer, roundDone.noneDue later⟩

/-- Of three sessions two are due, one of which has expired and is replaced. -/
theorem play_refreshes_each_once_of_expired :
    let parts := PoolParts.ofConfig
      { PoolConfig.standard with kind := .pinging, size := 3, pingIntervalSecs := 100 }
    let clock := Clock.startingAt ⟨0, by decide⟩
    let services := Fleet.ofBackends [.reliable (.fresh none none false) 0]
    let after (seconds : Nat) : Op Fleet := .moveClock (·.advance (.ofSeconds seconds))
    let ops : List (Op Fleet) := [.bind 0, .get none, after 60, .put 0, after 40,
      .outside (Fleet.onMemory 0 (·.expire ⟨"session-2"⟩))]
    let l := (startAmong [] parts clock services).play ops
    let now := l.env.clock.now
    (parts.kind = .pinging ∧ (l.pool.pingAllDue l.env).1.1 = .ok 2 ∧
      (l.pool.pingAllDue l.env).2.clock.now = now ∧ now < now.after parts.interval) ∧
      ∃ pool after heard, l.pool = .pinging pool ∧
        (l.pool.pingAllDue l.env).1.2 = .pinging after ∧
        (pool.dueEntries now).length = 2 ∧ (∃ renewed, pool.RoundDone now after heard renewed) ∧
        ∀ entry ∈ after.queue.entries, now < entry.due := by
  intro parts clock services after ops l now
  have ok : (l.pool.pingAllDue l.env).1.1 = .ok 2 := by decide +kernel
  have still : (l.pool.pingAllDue l.env).2.clock.now = now := by decide +kernel
  have later : now < now.after parts.interval := by decide +kernel
  obtain ⟨pool, same, heard, -, -, -, refreshes⟩ :=
    play_refreshes_each_once [] parts clock services ops rfl
  refine ⟨⟨rfl, ok, still, later⟩, pool, ?_⟩
  have here : l.pool = .pinging pool := same
  rw [here] at ok still ⊢
  obtain ⟨refreshed, -, roundDone, -, noneDue⟩ := refreshes 2 ok still later
  exact ⟨_, heard, rfl, rfl, refreshed.symm, roundDone, noneDue⟩

end Lending
end SessionPooling
