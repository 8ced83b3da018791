import SessionPooling.Proofs.CleanFailure
import SessionPooling.Proofs.DueRounds
import SessionPooling.Proofs.FirstComeFirstServed

/-! What one session does to the others that are due. A round of pings refreshes the sessions in
front of the first whose ping fails, and leaves that one and all behind it as they are; and as it
still is the first, it is also where the next round ends. So as long as the pings of one session
fail, no session behind it is pinged, however many rounds there are. -/
namespace SessionPooling
variable {σ : Type}

/-- A ping of the session failed, and not because the session is missing. -/
inductive Session.PingFailed (session : Session) : Exchange → Prop where
  | failed {creation e} (known : session.creation = some creation)
      (notMissing : e.isNotFound = false) :
      PingFailed session ⟨session.backend, .ping creation.id, .error e⟩

/-- Whenever a ping of the session was heard, it failed in that way. -/
def Session.PingsFail (session : Session) (heard : List Exchange) : Prop :=
  ∀ exchange ∈ heard, exchange.backend = session.backend →
    session.id?.map Request.ping = some exchange.request →
    ∃ e, exchange.failure? = some e ∧ e.isNotFound = false

section
variable {session : Session} {heard more : List Exchange}

theorem Session.PingsFail.of_append (fail : session.PingsFail (heard ++ more)) :
    session.PingsFail heard ∧ session.PingsFail more := by
  constructor
  · exact fun exchange member => fail exchange (List.mem_append_left _ member)
  · exact fun exchange member => fail exchange (List.mem_append_right _ member)

theorem Session.PingsFail.error {creation : Creation} {reply : Except Failure Unit}
    (fail : session.PingsFail (⟨session.backend, .ping creation.id, reply⟩ :: more))
    (known : session.creation = some creation) : ∃ e, reply = .error e ∧ e.isNotFound = false := by
  have named : session.id?.map Request.ping = some (.ping creation.id) := by
    simp [Session.id?, known]
  obtain ⟨e, failed, notMissing⟩ := fail _ List.mem_cons_self rfl named
  cases reply with
  | ok _ => cases failed
  | error told =>
    cases failed
    exact ⟨_, rfl, notMissing⟩

/-- If the pings of a session fail, no one can say what became of it when it was looked after. -/
theorem Desk.Refreshed.unclear_of_pingsFail {desk : Desk} {condition : Condition}
    (refreshed : desk.Refreshed session condition heard) (fail : session.PingsFail heard) :
    (∃ e, condition = .unclear e) ∧ ∀ exchange ∈ heard, session.PingFailed exchange := by
  have found {missing : Failure} {asked : List Exchange} (notFound : missing.isNotFound)
      (pinged : session.Pinged (.error missing) asked) (fail : session.PingsFail asked) :
      False := by
    cases pinged with
    | unborn => cases notFound
    | failed known =>
      obtain ⟨e, same, notMissing⟩ := fail.error known
      cases same
      exact Bool.false_ne_true (notMissing.symm.trans notFound)
  cases refreshed with
  | pinged pinged =>
    cases pinged with
    | kept known time =>
      obtain ⟨e, same, -⟩ := fail.error known
      cases same
  | replaced notFound pinged => exact (found notFound pinged fail.of_append.1).elim
  | lost notFound pinged => exact (found notFound pinged fail.of_append.1).elim
  | unclear notMissing pinged =>
    refine ⟨⟨_, rfl⟩, fun exchange member => ?_⟩
    cases pinged with
    | unborn => cases member
    | failed known =>
      obtain rfl := List.mem_singleton.1 member
      exact .failed known notMissing

end

namespace PingingPool

/-- The entries that were not refreshed in a round, from the one on at which it stopped, while
`others` are in the queue besides. -/
inductive StoppedAt (desk : Desk) (others : List PingEntry) :
    List PingEntry → Except Failure Nat → PingingPool → List Exchange → Prop where
  /-- None is left, and the round goes on. -/
  | through {rounds refreshed mid begun result after heard ended} (same : mid.desk = desk)
      (entries : mid.queue.entries.Perm others)
      (went : PingedThrough rounds refreshed mid begun result after heard ended) :
      StoppedAt desk others [] result after heard
  /-- The first keeps its place, in front of those that wait behind it. -/
  | unclear {first behind e after heard}
      (refreshed : desk.Refreshed first.session (.unclear e) heard)
      (waiting : first :: behind <+: after.queue.entries)
      (entries : after.queue.entries.Perm (first :: behind ++ others)) :
      StoppedAt desk others (first :: behind) (.error e) after heard
  /-- The first is gone for good, and those behind it still wait. -/
  | lost {first behind e after heard}
      (refreshed : desk.Refreshed first.session (.lost e) heard)
      (waiting : behind <+: after.queue.entries)
      (entries : after.queue.entries.Perm (behind ++ others)) :
      StoppedAt desk others (first :: behind) (.error e) after heard

/-- Some entries were due when a round began, and others were not. Those that are `done` were
refreshed, one after another, and `renewed` was stored in their place; it stopped at the `left`. -/
inductive RanUntil (pool : PingingPool) (others : List PingEntry) (begun ended : Clock)
    (result : Except Failure Nat) (after : PingingPool) (done left renewed : List PingEntry) :
    List Exchange → Prop where
  | ran {heard more}
      (tended : pool.desk.Tended (done.map (·.session)) (renewed.map (·.session)) heard)
      (stamped : Stamped pool.pingInterval pool.nextSequence begun.now renewed ended.now)
      (stopped : StoppedAt pool.desk (renewed ++ others) left result after more) :
      RanUntil pool others begun ended result after done left renewed (heard ++ more)

/-- A queue is the entries that are due, and behind them those that are not. -/
theorem entries_eq_due_append_later (pool : PingingPool) (now : Instant) :
    pool.queue.entries = pool.dueEntries now ++ pool.laterEntries now := by
  obtain ⟨_, _, _, _, ⟨entries, ordered⟩, _⟩ := pool
  simp only [dueEntries, laterEntries]
  induction entries with
  | nil => rfl
  | cons first rest ih =>
    obtain ⟨least, orderedRest⟩ := List.pairwise_cons.1 ordered
    by_cases due : first.due ≤ now
    · simp only [List.filter_cons, due, decide_true, if_true, Bool.not_true, List.cons_append]
      exact congrArg (first :: ·) (ih orderedRest)
    · have noneDue : ∀ entry ∈ first :: rest, ¬ entry.due ≤ now := by
        refine List.forall_mem_cons.2 ⟨due, fun entry member dueNow => ?_⟩
        have notAfter := least entry member
        simp only [PingEntry.NotAfter, Instant.le_iff] at notAfter due dueNow
        omega
      rw [List.filter_eq_nil_iff.2 (by simpa using noneDue),
        List.filter_eq_self.2 (by simpa using noneDue), List.nil_append]

section
variable {pool after : PingingPool} {others : List PingEntry} {now : Instant}

/-- What is stored comes behind all that are due and were stored before. -/
theorem Numbered.entries_shelve (numbered : pool.Numbered) {waiting : List PingEntry}
    (entries : pool.queue.entries = waiting ++ others) (due : ∀ entry ∈ waiting, entry.due ≤ now)
    {time : Instant} (later : now ≤ time) (session : Session) :
    (pool.shelve time session).queue.entries = waiting ++
      insertPingEntry ⟨time.after pool.pingInterval, pool.nextSequence, session⟩ others := by
  refine (congrArg (insertPingEntry _) entries).trans (insertPingEntry_append ?_ others)
  intro entry member notAfter
  have stored : entry ∈ pool.queue.entries := entries ▸ List.mem_append_left _ member
  have fewer := numbered.fewer entry stored
  have passed := Int.le_trans (Int.le_trans (due entry member) later)
    (time.le_after pool.pingInterval)
  simp only [PingEntry.NotAfter] at notAfter
  omega

theorem StoppedAt.congr {desk : Desk} {left more : List PingEntry} {result : Except Failure Nat}
    {heard : List Exchange} (stopped : StoppedAt desk others left result after heard)
    (same : others.Perm more) : StoppedAt desk more left result after heard := by
  cases stopped with
  | through desk entries went => exact .through desk (entries.trans same) went
  | unclear refreshed waiting entries =>
    exact .unclear refreshed waiting (entries.trans (same.append_left _))
  | lost refreshed waiting entries =>
    exact .lost refreshed waiting (entries.trans (same.append_left _))

/-- A round that stopped before anything was refreshed. -/
theorem StoppedAt.atOnce {begun ended : Clock} {left : List PingEntry}
    {result : Except Failure Nat} {heard : List Exchange}
    (stopped : StoppedAt pool.desk others left result after heard)
    (passed : begun.now ≤ ended.now) :
    pool.RanUntil others begun ended result after [] left [] heard := by
  rw [← List.nil_append heard]
  exact .ran .nil (.nil passed) stopped

/-- One session is refreshed, and then the round goes on among the others. -/
theorem RanUntil.cons {entry : PingEntry} {queue : PingQueue} {session : Session} {time : Instant}
    {begun mid ended : Clock} {result : Except Failure Nat} {done left renewed : List PingEntry}
    {asked heard : List Exchange} (shown : begun.Spans time mid)
    (looked : pool.desk.Refreshed entry.session (.fit session) asked)
    (ran : (({ pool with queue } : PingingPool).shelve time session).RanUntil
      (insertPingEntry ⟨time.after pool.pingInterval, pool.nextSequence, session⟩ others) mid ended
      result after done left renewed heard) :
    pool.RanUntil others begun ended result after (entry :: done) left
      (⟨time.after pool.pingInterval, pool.nextSequence, session⟩ :: renewed) (asked ++ heard) := by
  obtain ⟨tended, stamped, stopped⟩ := ran
  rw [← List.append_assoc]
  refine .ran (.cons looked tended) (.cons shown.notBefore (stamped.since shown.notAfter)) ?_
  apply stopped.congr
  exact ((PingQueue.insertPingEntry_perm _ others).append_left renewed).trans List.perm_middle

/-- By induction on the entries that are due: the first is pinged, and what is stored in its place
comes behind the others. -/
theorem ranUntil_of_waiting (waiting : List PingEntry) :
    ∀ {rounds refreshed : Nat} {pool after : PingingPool} {begun ended : Clock}
      {result : Except Failure Nat} {heard : List Exchange} {others : List PingEntry},
      PingedThrough rounds refreshed pool begun result after heard ended →
      pool.queue.entries = waiting ++ others → (∀ entry ∈ waiting, entry.due ≤ now) →
      now ≤ begun.now → pool.Numbered → pool.queue.size ≤ pool.size → waiting.length ≤ rounds →
      ∃ done left renewed, waiting = done ++ left ∧
        pool.RanUntil others begun ended result after done left renewed heard := by
  induction waiting with
  | nil =>
    intro rounds refreshed pool after begun ended result heard others went entries _ _ _ _ _
    have through : StoppedAt pool.desk others [] result after heard :=
      .through rfl (.of_eq entries) went
    exact ⟨[], [], [], rfl, through.atOnce went.forward⟩
  | cons first behind ih =>
    intro rounds refreshed pool after begun ended result heard others went entries due passed
      numbered fits enough
    have front : pool.queue.entries = first :: (behind ++ others) := entries
    obtain ⟨firstDue, behindDue⟩ := List.forall_mem_cons.1 due
    cases went with
    | finished => exact (Nat.not_succ_le_zero _ enough).elim
    | idle pinged passes =>
      cases pinged with
      | idle early =>
        have notDue := early first (front ▸ List.mem_cons_self)
        exact (Int.not_le.2 notDue (Int.le_trans firstDue passed)).elim
    | failed pinged passes =>
      refine ⟨[], first :: behind, [], rfl, StoppedAt.atOnce ?_ passes.forward⟩
      cases pinged.pingedFirst fits front with
      | lost _ refreshed left => exact .lost refreshed ⟨others, left.symm⟩ (.of_eq left)
      | stays _ refreshed => exact .unclear refreshed ⟨others, entries.symm⟩ (.of_eq entries)
    | @next rounds refreshed _ _ next asked mid _ _ more _ pinged passes went =>
      cases pinged with
      | @stored entry queue session time _ popped _ looked shown =>
        obtain ⟨rfl, left⟩ := List.cons.inj (front.symm.trans (PingQueue.entries_of_pop? popped))
        have stored := (numbered.leaves popped).entries_shelve left.symm behindDue
          (Int.le_trans passed shown.notBefore) session
        obtain ⟨done, rest, renewed, split, ran⟩ := ih went stored behindDue
          (Int.le_trans passed passes.forward) ((numbered.leaves popped).shelve time session)
          (Nat.le_trans (Nat.le_of_eq (size_shelve_of_pop? popped time session)) fits)
          (Nat.le_of_succ_le_succ enough)
        exact ⟨first :: done, rest, _, congrArg (first :: ·) split, .cons shown looked ran⟩

/-- Rounds of pings, each after some waiting. -/
inductive PingedInRounds (interval : Duration) :
    (rounds : Nat) → PingingPool → Clock → PingingPool → List Exchange → Prop where
  | done {pool clock} : PingedInRounds interval 0 pool clock pool []
  | round {rounds pool clock result next heard mid after more}
      (went : PingedThrough pool.size 0 pool (clock.wait interval) result next heard mid)
      (others : PingedInRounds interval rounds next mid after more) :
      PingedInRounds interval (rounds + 1) pool clock after (heard ++ more)

theorem pingInRounds_pingedInRounds [Service σ] (interval : Duration) (rounds : Nat) :
    ∀ (pool : PingingPool) (clock : Clock),
      ((Pool.pinging pool).pingInRounds (σ := Recorder σ) interval rounds).HearsFrom clock []
        fun after heard _ => ∃ last, after = .pinging last ∧
          PingedInRounds interval rounds pool clock last heard := by
  induction rounds with
  | zero => exact fun pool clock => .pure ⟨pool, rfl, .done⟩
  | succ rounds ih =>
    intro pool clock
    have went : ((Pool.pinging pool).pingAllDue (σ := Recorder σ)).HearsFrom
        (clock.wait interval) [] fun r heard mid => ∃ next, r.2 = .pinging next ∧
          PingedThrough pool.size 0 pool (clock.wait interval) r.1 next heard mid :=
      .map ((pingRounds_pingedThrough pool.size 0 pool _).mono fun r _ _ went => ⟨r.2, rfl, went⟩)
    refine .waiting (.bind went ?_)
    rintro ⟨result, after⟩ heard mid passes ⟨next, rfl, went⟩
    apply (ih next mid).behind
    rintro last more ended ⟨final, rfl, others⟩
    exact ⟨final, rfl, .round went others⟩

section
variable {first : PingEntry} {begun ended : Clock} {heard : List Exchange}

/-- A round in which the pings of the first session fail does nothing else. -/
theorem PingedThrough.starved {rounds refreshed : Nat} {result : Except Failure Nat}
    (went : PingedThrough rounds refreshed pool begun result after heard ended)
    (front : pool.queue.entries = first :: others) (fits : pool.queue.size ≤ pool.size)
    (fail : first.session.PingsFail heard) :
    after = pool ∧ ∀ exchange ∈ heard, first.session.PingFailed exchange := by
  cases went with
  | finished => exact ⟨rfl, List.forall_mem_nil _⟩
  | idle pinged passes =>
    cases pinged with
    | idle early => exact ⟨rfl, List.forall_mem_nil _⟩
  | failed pinged passes =>
    cases pinged.pingedFirst fits front with
    | lost _ refreshed =>
      obtain ⟨⟨e, unclear⟩, -⟩ := refreshed.unclear_of_pingsFail fail
      cases unclear
    | stays _ refreshed => exact ⟨rfl, (refreshed.unclear_of_pingsFail fail).2⟩
  | next pinged passes went =>
    cases pinged.pingedFirst fits front with
    | refreshed _ refreshed =>
      obtain ⟨⟨e, unclear⟩, -⟩ := refreshed.unclear_of_pingsFail fail.of_append.1
      cases unclear

/-- By induction on the rounds: each finds the pool as the one before did. -/
theorem PingedInRounds.starved {interval : Duration} {rounds : Nat}
    (went : PingedInRounds interval rounds pool begun after heard) :
    pool.queue.entries = first :: others → pool.queue.size ≤ pool.size →
      first.session.PingsFail heard →
      after = pool ∧ ∀ exchange ∈ heard, first.session.PingFailed exchange := by
  induction went with
  | done => exact fun _ _ _ => ⟨rfl, List.forall_mem_nil _⟩
  | round went _ ih =>
    intro front fits fail
    obtain ⟨failOne, failMore⟩ := fail.of_append
    obtain ⟨rfl, failed⟩ := went.starved front fits failOne
    obtain ⟨same, failedMore⟩ := ih front fits failMore
    exact ⟨same, List.forall_mem_append.2 ⟨failed, failedMore⟩⟩

end
end

end PingingPool

namespace Lending
variable [Service σ]

/-- In every run of a pool around a queue, a round of pings refreshes the sessions that are due, in
order, up to the first whose ping fails, and not because it is missing, or which is missing and
cannot be replaced. Those behind it are not pinged and stay as they are, and so does the first in
the former case; there, however many rounds follow, as long as its pings fail it is all that is
pinged, and the pool does not change. -/
theorem play_refreshes_up_to_failure (strangers : List Session) (parts : PoolParts) (clock : Clock)
    (services : σ) (ops : List (Op σ)) (pinging : parts.kind = .pinging) :
    let l := (startAmong strangers parts clock services).play ops
    let now := l.env.clock.now
    ∃ pool, l.pool = .pinging pool ∧
      pool.queue.entries = pool.dueEntries now ++ pool.laterEntries now ∧
      (let went := pool.pingAllDue l.env
        ∃ heard done left renewed, went.2.service.heard = l.heard ++ heard ∧
          pool.dueEntries now = done ++ left ∧
          pool.RanUntil (pool.laterEntries now) l.env.clock went.2.clock went.1.1 went.1.2 done left
            renewed heard) ∧
      ∀ interval rounds,
        let kept := l.pool.pingInRounds interval rounds l.env
        ∃ heard, kept.2.service.heard = l.heard ++ heard ∧
          ∀ first others, pool.queue.entries = first :: others → first.session.PingsFail heard →
            kept.1 = l.pool ∧ ∀ exchange ∈ heard, first.session.PingFailed exchange := by
  intro l now
  obtain ⟨fresh, begun, -⟩ := startAmong_queues strangers clock services pinging
  obtain ⟨pool, queues⟩ := begun.play ops
  have split := pool.entries_eq_due_append_later now
  refine ⟨pool, queues.same, split, ?_, ?_⟩
  · intro went
    obtain ⟨heard, grown, -, through⟩ :=
      PingingPool.pingRounds_pingedThrough pool.size 0 pool l.env.clock l.env rfl
    have due : ∀ entry ∈ pool.dueEntries now, entry.due ≤ now := fun entry member =>
      of_decide_eq_true (List.mem_filter.1 member).2
    have enough : (pool.dueEntries now).length ≤ pool.size :=
      Nat.le_trans (List.length_filter_le _ _) queues.fits
    obtain ⟨done, left, renewed, parted, ran⟩ := PingingPool.ranUntil_of_waiting _ through split due
      (Int.le_refl _) queues.numbered queues.fits enough
    exact ⟨heard, done, left, renewed, grown, parted, ran⟩
  · intro interval rounds kept
    obtain ⟨heard, grown, -, last, same, went⟩ :=
      PingingPool.pingInRounds_pingedInRounds interval rounds pool l.env.clock l.env rfl
    rw [← queues.same] at grown same
    refine ⟨heard, grown, fun first others front fail => ?_⟩
    obtain ⟨rfl, failed⟩ := went.starved front queues.fits fail
    exact ⟨same.trans queues.same.symm, failed⟩

/-- Three sessions were due, and the ping of the second failed. The first was refreshed, and the
second is where two more rounds end. -/
theorem play_refreshes_up_to_failure_of_unreachable :
    let parts := PoolParts.ofConfig
      { PoolConfig.standard with kind := .pinging, size := 3, pingIntervalSecs := 100 }
    let clock := Clock.startingAt ⟨0, by decide⟩
    let services := Fleet.ofBackends [.reliable (.fresh none none false) 0]
    let next (fault : Option Failure) : Op Fleet :=
      .outside (Fleet.onBackend 0 (·.arrange .ping fault))
    let ops := [.bind 0, .moveClock (·.advance (.ofSeconds 100)), next none,
      next (some Fleet.unreachable), .pingAllDue, next (some Fleet.unreachable),
      next (some Fleet.unreachable)]
    let l := (startAmong [] parts clock services).play ops
    let now := l.env.clock.now
    let kept := l.pool.pingInRounds .zero 2 l.env
    (parts.kind = .pinging ∧
      (kept.2.service.heard.drop l.heard.length).all fun exchange =>
        exchange.failure?.any fun e => !e.isNotFound) ∧
      l.pool.sessions.map (·.id?) =
        [some ⟨"session-2"⟩, some ⟨"session-3"⟩, some ⟨"session-1"⟩] ∧
      (let went := l.pool.pingAllDue l.env
        ∃ pool after heard done left renewed, l.pool = .pinging pool ∧
          went.1.2 = .pinging after ∧ pool.dueEntries now = done ++ left ∧
          pool.RanUntil (pool.laterEntries now) l.env.clock went.2.clock went.1.1 after done left
            renewed heard) ∧
      kept.1 = l.pool := by
  intro parts clock services next ops l now kept
  have failed : (kept.2.service.heard.drop l.heard.length).all fun exchange =>
      exchange.failure?.any fun e => !e.isNotFound := by decide +kernel
  have sessions : l.pool.sessions.map (·.id?) =
      [some ⟨"session-2"⟩, some ⟨"session-3"⟩, some ⟨"session-1"⟩] := by decide +kernel
  obtain ⟨pool, same, -, ⟨heard, done, left, renewed, -, parted, ran⟩, rounds⟩ :=
    play_refreshes_up_to_failure [] parts clock services ops rfl
  have here : l.pool = .pinging pool := same
  refine ⟨⟨rfl, failed⟩, sessions, ?_, ?_⟩
  · rw [here]
    exact ⟨pool, _, heard, done, left, renewed, rfl, rfl, parted, ran⟩
  · obtain ⟨more, grown, starved⟩ := rounds .zero 2
    have heardLater : kept.2.service.heard.drop l.heard.length = more := by
      rw [grown]
      exact List.drop_left
    rw [heardLater, List.all_eq_true] at failed
    rw [here] at sessions
    obtain ⟨first, others, front, -⟩ := List.map_eq_cons_iff.1 (List.map_map.symm.trans sessions)
    refine (starved first others front fun exchange member _ _ => ?_).1
    obtain ⟨e, told, notMissing⟩ := (Option.any_eq_true _ _).1 (failed exchange member)
    exact ⟨e, told, by simpa using notMissing⟩

/-- Of two sessions that are due, the first has pings that fail. The other one is not pinged, round
after round, although its own ping would succeed. -/
theorem healthy_never_pinged :
    let parts := PoolParts.ofConfig
      { PoolConfig.standard with kind := .pinging, size := 2, pingIntervalSecs := 100 }
    let clock := Clock.startingAt ⟨0, by decide⟩
    let services := Fleet.ofBackends [.reliable (.fresh none none false) 0]
    let failing : Op Fleet := .outside (Fleet.onMemory 0 (·.failPing (.status .unavailable)))
    let due := (startAmong [] parts clock services).play
      [.bind 0, .moveClock (·.advance (.ofSeconds 100))]
    let l := due.play [failing, .pingAllDue, failing, .pingAllDue, failing, .pingAllDue]
    (due.pool.pingAllDue due.env).1.1 = .ok 2 ∧
      (l.pool.sessions[1]?.map fun healthy => (healthy.id?, (healthy.ping l.env).1.isOk)) =
        some (some ⟨"session-2"⟩, true) ∧
      pingsIn l.heard = List.replicate 3 (0, ⟨"session-1"⟩) ∧ l.pool = due.pool := by
  decide +kernel

end Lending
end SessionPooling
