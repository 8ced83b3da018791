import Mathlib.Algebra.BigOperators.Group.List.Basic
import Mathlib.Algebra.Order.Floor.Div
import SessionPooling.Proofs.Trail

/-! What a deadline does to a run, on a clock that is set by hand and that the work of the
attempts never sets back. No sleep of the run reaches past its deadline, and where every delay has
a least length, the deadline bounds the number of attempts. -/
namespace SessionPooling.Executor
variable {σ κ α : Type}

/-- An attempt that leaves a clock that is set by hand no earlier than it found it. -/
structure Try.Forward (a : Try α) : Prop where
  still : a.stop.runs = false
  forward : a.start.now ≤ a.stop.now

section
variable {config : RetryConfig} {deadline : Option Instant} {latest : Instant} {number : Nat}
  {tries : List (Try α)} {result : Option (Outcome α)} {a : Try α} {delay least : Duration}
  {conflict : Failure}

/-- Every attempt of a run is followed by a pause, or is the last. -/
theorem Kept.next_of_mem (kept : Kept config deadline number tries result) (member : a ∈ tries) :
    ∃ number,
      (∃ delay, Retry.next config deadline number a.seen = .pause delay ∧ a.pause = some delay) ∨
      ∃ outcome, Retry.next config deadline number a.seen = .stop outcome ∧ a.pause = none ∧
        result = some outcome := by
  induction kept with
  | nil => cases member
  | @last number b outcome plain stops none =>
    obtain rfl := List.mem_singleton.1 member
    exact ⟨number, .inr ⟨outcome, stops, none, rfl⟩⟩
  | @next number b delay tries result plain follows slept rest ih =>
    obtain rfl | later := List.mem_cons.1 member
    · exact ⟨number, .inl ⟨delay, follows, slept⟩⟩
    · exact ih later

/-- A pause follows a conflict that comes before the deadline, and does not end after it. -/
theorem Kept.pause_inTime (kept : Kept config deadline number tries result) (member : a ∈ tries)
    (pauses : a.pause = some delay) :
    ∃ conflict number, a.ending = .error conflict ∧ conflict.isConflict ∧
      Retry.delay? config conflict.hint? number a.drawn = some delay ∧
      ∀ latest ∈ deadline, a.stop.now < latest ∧ a.stop.now.after delay ≤ latest := by
  obtain ⟨number, ⟨delay', follows, slept⟩ | ⟨outcome, -, none, -⟩⟩ := kept.next_of_mem member
  · obtain rfl := Option.some.inj (slept.symm.trans pauses)
    obtain ⟨conflict, ended, isConflict, told, inTime⟩ := Retry.next_pause follows
    exact ⟨conflict, number, ended, isConflict, told, inTime⟩
  · cases none.symm.trans pauses

/-- A conflict that comes at the deadline or after it is the result. -/
theorem Kept.result_of_late (kept : Kept config (some latest) number tries result)
    (member : a ∈ tries) (ended : a.ending = .error conflict) (isConflict : conflict.isConflict)
    (late : latest ≤ a.stop.now) : a.pause = none ∧ result = some (.error conflict) := by
  obtain ⟨number, ⟨delay, follows, -⟩ | ⟨outcome, stops, none, last⟩⟩ := kept.next_of_mem member
  · rw [Retry.next_of_late ended isConflict late] at follows
    cases follows
  · rw [Retry.next_of_late ended isConflict late] at stops
    cases stops
    exact ⟨none, last⟩

theorem Kept.length_eq (kept : Kept config deadline number tries result) :
    tries.length = (tries.filterMap Try.pause).length + result.toList.length := by
  induction kept with
  | nil => rfl
  | last plain stops none => simp [none]
  | next plain follows slept rest ih =>
    simp only [List.length_cons, List.filterMap_cons, slept, ih]
    omega

/-- Attempts whose pauses begin before an instant and do not end after it. -/
def PausesBy (latest : Instant) (tries : List (Try α)) : Prop :=
  ∀ a ∈ tries, ∀ delay ∈ a.pause, a.stop.now < latest ∧ a.stop.now.after delay ≤ latest

theorem Kept.pausesBy (kept : Kept config (some latest) number tries result) :
    PausesBy latest tries := by
  intro a member delay pauses
  obtain ⟨conflict, number, ended, isConflict, told, inTime⟩ := kept.pause_inTime member pauses
  exact inTime latest rfl

/-- Attempts all of whose conflicts tell how long to wait, which is never less than so long. -/
def DelaysFor (config : RetryConfig) (least : Duration) (tries : List (Try α)) : Prop :=
  ∀ a ∈ tries, ∀ conflict, a.ending = .error conflict → conflict.isConflict →
    ∃ delay, Retry.leastDelay? config conflict.hint? = some delay ∧ least ≤ delay

theorem Kept.least_le_pause (kept : Kept config deadline number tries result)
    (delays : DelaysFor config least tries) :
    ∀ delay ∈ tries.filterMap Try.pause, least ≤ delay := by
  intro delay member
  obtain ⟨a, isTry, pauses⟩ := List.mem_filterMap.1 member
  obtain ⟨conflict, number, ended, isConflict, told, -⟩ := kept.pause_inTime isTry pauses
  obtain ⟨shortest, known, enough⟩ := delays a isTry conflict ended isConflict
  obtain ⟨delay', same, longer⟩ := Retry.exists_delay_of_least known number a.drawn
  obtain rfl := Option.some.inj (same.symm.trans told)
  exact Nat.le_trans enough longer

/-- Where every conflict tells how long to wait, the result is the ending of the last attempt. -/
theorem Kept.result_eq (kept : Kept config deadline number tries result)
    (delays : DelaysFor config least tries) :
    ∀ outcome ∈ result, ∃ last ∈ tries.getLast?, last.ending = outcome := by
  induction kept with
  | nil => nofun
  | @last number a result plain stops none =>
    rintro outcome ⟨⟩
    refine ⟨a, rfl, ?_⟩
    obtain same | ⟨conflict, ended, isConflict, untold⟩ := Retry.next_stop stops
    · exact same.symm
    · obtain ⟨shortest, known, -⟩ := delays a List.mem_cons_self conflict ended isConflict
      obtain ⟨delay, known, -⟩ := Retry.exists_delay_of_least known number a.drawn
      cases untold.symm.trans known
  | next plain follows slept rest ih =>
    intro outcome isResult
    obtain ⟨last, isLast, ended⟩ :=
      ih (fun b member => delays b (List.mem_cons_of_mem _ member)) outcome isResult
    refine ⟨last, ?_, ended⟩
    rw [List.getLast?_cons, isLast]
    rfl

end

/-- Sleeps one after another, from the first time on. Each begins before the last of the times
that are allowed and ends no later than then. -/
inductive Slept (latest : Instant) : Instant → List Duration → Prop where
  | nil {time} : Slept latest time []
  | cons {time start delay delays} (passed : time ≤ start) (starts : start < latest)
      (ends : start.after delay ≤ latest) (rest : Slept latest (start.after delay) delays) :
      Slept latest time (delay :: delays)

section
variable {latest time : Instant} {delay least : Duration} {delays : List Duration}

/-- Before the last instant there is, sleeps are as long as they are said to be. -/
theorem Slept.sum_le (slept : Slept latest time delays) (begun : time ≤ latest)
    (inRange : latest.nanos < latestNanos) :
    time.nanos + (delays.map Duration.nanos).sum ≤ latest.nanos := by
  induction slept with
  | nil => exact (Int.add_zero _).symm ▸ begun
  | cons passed starts ends rest ih =>
    have later := ih ends
    simp only [Instant.le_iff, Instant.nanos_after] at passed ends later
    rw [List.map_cons, List.sum_cons]
    omega

/-- All sleeps but the last are as long as they are said to be, also where the latest time is the
last instant, since no sleep begins there. -/
theorem Slept.mul_lt (slept : Slept latest time (delay :: delays))
    (long : ∀ d ∈ delay :: delays, least ≤ d) :
    time.nanos + (delays.length * least.nanos : Nat) < latest.nanos := by
  induction delays generalizing time delay with
  | nil =>
    cases slept with
    | cons passed starts ends rest =>
      simp only [Instant.le_iff, Instant.lt_iff] at passed starts
      simp only [List.length_nil, Nat.zero_mul]
      omega
  | cons next delays ih =>
    cases slept with
    | cons passed starts ends rest =>
      have later := ih rest fun d member => long d (List.mem_cons_of_mem delay member)
      have enough := long delay List.mem_cons_self
      have bounded := latest.inRange
      simp only [Instant.le_iff, Instant.nanos_after, Duration.le_iff] at passed later enough
      rw [List.length_cons, Nat.succ_mul]
      omega

/-- No more sleeps fit before a deadline than it takes to fill the time until then, whether or
not the deadline had to stop at the last instant. -/
theorem Slept.length_le {timeout : Duration} (slept : Slept (time.after timeout) time delays)
    (long : ∀ d ∈ delays, least ≤ d) (positive : 0 < least.nanos) :
    delays.length ≤ timeout.nanos ⌈/⌉ least.nanos := by
  cases delays with
  | nil => exact Nat.zero_le _
  | cons delay delays =>
    have early := slept.mul_lt long
    rw [Instant.nanos_after] at early
    refine Nat.lt_of_not_le fun few => ?_
    have covered := (ceilDiv_le_iff_le_mul positive).1 few
    rw [Nat.mul_comm] at covered
    omega

end

section
variable [Service σ] {x number : Nat} {work : Work σ κ α} {session : Session}
  {sys after resumed final : System σ κ} {tries : List (Try α)} {delay : Duration}
  {latest : Instant}

theorem Paused.now_eq (paused : Paused x delay after resumed)
    (still : after.env.clock.runs = false) :
    resumed.env.clock.now = after.env.clock.now.after delay := by
  rw [paused.clock, Clock.now_sleep, Clock.wait_of_not_runs still]

theorem Trail.slept (trail : Trail x work number session sys tries final)
    (forward : ∀ a ∈ tries, a.Forward) (inTime : PausesBy latest tries) :
    Slept latest sys.env.clock.now (tries.filterMap Try.pause) := by
  induction trail with
  | nil => exact .nil
  | last attempted left => exact .nil
  | next attempted paused rest ih =>
    obtain ⟨⟨still, passed⟩, forward⟩ := List.forall_mem_cons.1 forward
    obtain ⟨first, inTime⟩ := List.forall_mem_cons.1 inTime
    obtain ⟨starts, ends⟩ := first _ rfl
    refine .cons passed starts ends ?_
    rw [← paused.now_eq still]
    exact ih forward inTime

/-- Every attempt of a run that begins in time begins in time. -/
theorem Trail.start_le (trail : Trail x work number session sys tries final)
    (forward : ∀ a ∈ tries, a.Forward) (inTime : PausesBy latest tries)
    (begun : sys.env.clock.now ≤ latest) : ∀ a ∈ tries, a.start.now ≤ latest := by
  induction trail with
  | nil => exact List.forall_mem_nil _
  | last attempted left => exact List.forall_mem_singleton.2 begun
  | next attempted paused rest ih =>
    obtain ⟨⟨still, -⟩, forward⟩ := List.forall_mem_cons.1 forward
    obtain ⟨first, inTime⟩ := List.forall_mem_cons.1 inTime
    have ends := (first _ rfl).2
    rw [← paused.now_eq still] at ends
    exact List.forall_mem_cons.2 ⟨begun, ih forward inTime ends⟩

end

/-- Work that leaves a clock that is set by hand no earlier than it found it, in any state. -/
def NeverSetsBack (work : Work σ κ α) : Prop :=
  ∀ number t sys, sys.env.clock.runs = false →
    (work number t sys).2.env.clock.runs = false ∧
      sys.env.clock.now ≤ (work number t sys).2.env.clock.now

section
variable [Service σ] {x number : Nat} {thread : Thread} {work : Work σ κ α} {session : Session}
  {sys : System σ κ}

theorem Attempted.forward {ending : Outcome α} {afterwards : Session} {after : System σ κ}
    (attempted : Attempted (work number) session sys ending afterwards after)
    (onward : NeverSetsBack work) (still : sys.env.clock.runs = false) :
    after.env.clock.runs = false ∧ sys.env.clock.now ≤ after.env.clock.now := by
  have went {creation : Creation} {outcome : Outcome α} {t : Transaction} {mid : System σ κ}
      (worked : work number (.fresh creation.id session.backend) sys = ((outcome, t), mid)) :
      mid.env.clock.runs = false ∧ sys.env.clock.now ≤ mid.env.clock.now := by
    have onward := onward number (.fresh creation.id session.backend) sys still
    rwa [worked] at onward
  have same {t : Transaction} {mid : System σ κ} {reply : Except Failure Instant × Transaction}
      (acted : Sys.act t.commit mid = (reply, after)) : after.env.clock = mid.env.clock :=
    (congrArg (fun ended => ended.2.env.clock) acted.symm).trans (commit_clock t mid.env)
  cases attempted with
  | unborn never => exact ⟨still, Int.le_refl _⟩
  | failed born worked => exact went worked
  | panicked born worked => exact went worked
  | notCommitted born worked refused =>
    rw [same refused]
    exact went worked
  | committed born worked committed =>
    rw [same committed]
    exact went worked

theorem Trail.forward {tries : List (Try α)} {final : System σ κ}
    (trail : Trail x work number session sys tries final) (onward : NeverSetsBack work)
    (still : sys.env.clock.runs = false) : ∀ a ∈ tries, a.Forward := by
  induction trail with
  | nil => exact List.forall_mem_nil _
  | last attempted left =>
    obtain ⟨stays, forward⟩ := attempted.forward onward still
    exact List.forall_mem_singleton.2 ⟨stays, forward⟩
  | next attempted paused rest ih =>
    obtain ⟨stays, forward⟩ := attempted.forward onward still
    refine List.forall_mem_cons.2 ⟨⟨stays, forward⟩, ih ?_⟩
    rw [paused.clock, Clock.runs_sleep, Clock.runs_wait]
    exact stays

omit [Service σ] in
theorem neverSetsBack_ofOutcomes (outcomes : Nat → Outcome α) :
    NeverSetsBack (Work.ofOutcomes outcomes : Work σ κ α) :=
  fun _ _ _ still => ⟨still, Int.le_refl _⟩

end

section
variable [Service σ] {x : Nat} {thread : Thread} {sys : System σ κ} {executor : Executor}

omit [Service σ] in
theorem entered_clock (still : sys.env.clock.runs = false) :
    (entered x thread sys).env.clock = sys.env.clock :=
  Clock.wait_of_not_runs still _

/-- A run does not sleep past its deadline. Each of its sleeps begins before the deadline and does
not end after it, so that together they are no longer than the timeout, every attempt begins by
the deadline, and a conflict that comes no sooner is the result, with no sleep after it. -/
theorem run_sleeps_before_deadline (session : Session) (timeout : Duration) (work : Work σ κ α)
    (found : sys.executors[x]? = some executor) (free : thread ∉ executor.running)
    (still : sys.env.clock.runs = false)
    (inRange : sys.env.clock.now.nanos + timeout.nanos < latestNanos) :
    let ended := runWithTimeout x thread session (some timeout) work sys
    let deadline := sys.env.clock.now.nanos + timeout.nanos
    ∃ tries, Made x thread work session sys tries ended.2 ∧
      ((∀ a ∈ tries, a.Forward) →
        (∀ a ∈ tries, ∀ delay ∈ a.pause,
          a.stop.now.nanos < deadline ∧ (a.stop.sleep delay).now.nanos ≤ deadline) ∧
        ((tries.filterMap Try.pause).map Duration.nanos).sum ≤ timeout.nanos ∧
        (∀ a ∈ tries, a.start.now.nanos ≤ deadline) ∧
        ∀ a ∈ tries, ∀ conflict, a.ending = .error conflict → conflict.isConflict →
          deadline ≤ a.stop.now.nanos → a.pause = none ∧ ended.1.1 = .error conflict) := by
  intro ended deadline
  obtain ⟨tries, left, same, trail, ⟨result, kept, ends⟩, -⟩ :=
    runWithTimeout_made session (some timeout) work found free
  refine ⟨tries, ⟨left, trail, same⟩, fun forward => ?_⟩
  have unclipped : (sys.env.clock.now.after timeout).nanos = deadline :=
    Int.min_eq_left (Int.le_of_lt inRange)
  have inTime := kept.pausesBy
  have begun : (entered x thread sys).env.clock.now ≤ sys.env.clock.now.after timeout := by
    rw [entered_clock still, Instant.le_iff, unclipped]
    exact Int.le_add_of_nonneg_right (Int.natCast_nonneg _)
  refine ⟨fun a member delay pauses => ?_, ?_, fun a member => ?_, ?_⟩
  · rw [← unclipped]
    exact inTime a member delay pauses
  · have together := (trail.slept forward inTime).sum_le begun (unclipped ▸ inRange)
    rw [entered_clock still, unclipped] at together
    exact Int.ofNat_le.1 (Int.le_of_add_le_add_left together)
  · rw [← unclipped]
    exact trail.start_le forward inTime begun a member
  · intro a member conflict ended isConflict late
    rw [← unclipped] at late
    obtain ⟨noPause, last⟩ := kept.result_of_late member ended isConflict late
    refine ⟨noPause, ?_⟩
    obtain same | ⟨none, -⟩ := ends
    · exact (Option.some.inj (last.symm.trans same)).symm
    · cases last.symm.trans none

/-- Random delays, and a deadline that the sleep after the third conflict would pass. -/
theorem run_sleeps_before_deadline_of_conflicts :
    let sys := besieged .standard (.startingAt ⟨0, by decide⟩) [.aborted "busy" none]
    let session := Session.existing ⟨"session-1"⟩ 0 .empty ⟨0, by decide⟩
    let timeout := Duration.ofSeconds 9
    let work := Work.ofOutcomes fun number =>
      if number = 1 then .ok () else .error (.aborted "busy" none)
    let ended := runWithTimeout 0 0 session (some timeout) work sys
    (sys.executors[0]? = some (.idle .standard) ∧ 0 ∉ (Executor.idle .standard).running ∧
      sys.env.clock.runs = false ∧ sys.env.clock.now.nanos + timeout.nanos < latestNanos) ∧
    ended.2.env.clock.sleeps.length = 2 ∧
    ∃ tries, Made 0 0 work session sys tries ended.2 ∧ (∀ a ∈ tries, a.Forward) ∧
      ((tries.filterMap Try.pause).map Duration.nanos).sum ≤ timeout.nanos := by
  intro sys session timeout work ended
  have found : sys.executors[0]? = some (.idle .standard) := rfl
  have free : 0 ∉ (Executor.idle .standard).running := List.not_mem_nil
  have still : sys.env.clock.runs = false := rfl
  have inRange : sys.env.clock.now.nanos + timeout.nanos < latestNanos := by decide
  obtain ⟨tries, made, timely⟩ :=
    run_sleeps_before_deadline session timeout work found free still inRange
  have ⟨left, trail, _⟩ := made
  have forward := trail.forward (neverSetsBack_ofOutcomes _) still
  exact ⟨⟨found, free, still, inRange⟩, by decide +kernel, tries, made, forward,
    (timely forward).2.1⟩

/-- Where every conflict is followed by a delay of some least length, if by any, a run with a
timeout ends after so many attempts as delays fit in, and one more, with the ending of the last
attempt. -/
theorem run_attempts_bounded (session : Session) (timeout least : Duration) (work : Work σ κ α)
    (found : sys.executors[x]? = some executor) (free : thread ∉ executor.running)
    (still : sys.env.clock.runs = false) (positive : 0 < least.nanos)
    (countable : 1 + timeout.nanos ⌈/⌉ least.nanos < 2 ^ 32) :
    let ended := runWithTimeout x thread session (some timeout) work sys
    ∃ tries, Made x thread work session sys tries ended.2 ∧
      ((∀ a ∈ tries, a.Forward) → DelaysFor executor.config least tries →
        tries.length ≤ 1 + timeout.nanos ⌈/⌉ least.nanos ∧
          ∃ last ∈ tries.getLast?, last.ending = ended.1.1) := by
  intro ended
  obtain ⟨tries, left, same, trail, ⟨result, kept, ends⟩, -⟩ :=
    runWithTimeout_made session (some timeout) work found free
  refine ⟨tries, ⟨left, trail, same⟩, fun forward delays => ?_⟩
  have slept := trail.slept forward kept.pausesBy
  rw [entered_clock still] at slept
  have few := slept.length_le (kept.least_le_pause delays) positive
  have counted := kept.length_eq
  obtain rfl | ⟨rfl, all, -⟩ := ends
  · rw [Option.toList_some, List.length_singleton] at counted
    exact ⟨by omega, kept.result_eq delays _ rfl⟩
  · -- A run that has used up the numbers of its attempts has slept after each of them.
    have limit : attemptLimit = 2 ^ 32 - 1 := rfl
    rw [Option.toList_none, List.length_nil] at counted
    omega

/-- Nothing but conflicts. -/
theorem run_attempts_bounded_of_conflicts :
    let sys := besieged .standard (.startingAt ⟨0, by decide⟩) []
    let session := Session.existing ⟨"session-1"⟩ 0 .empty ⟨0, by decide⟩
    let timeout := Duration.ofSeconds 9
    let least := Duration.ofSeconds 1
    let work : Work Fleet Unit Unit := .ofOutcomes fun _ => .error (.aborted "busy" none)
    let ended := runWithTimeout 0 0 session (some timeout) work sys
    (sys.executors[0]? = some (.idle .standard) ∧ 0 ∉ (Executor.idle .standard).running ∧
      sys.env.clock.runs = false ∧ 0 < least.nanos ∧ 1 + timeout.nanos ⌈/⌉ least.nanos < 2 ^ 32) ∧
    ∃ tries, Made 0 0 work session sys tries ended.2 ∧ tries.length ≤ 10 ∧
      ∃ last ∈ tries.getLast?, last.ending = ended.1.1 := by
  intro sys session timeout least work
  have found : sys.executors[0]? = some (.idle .standard) := rfl
  have free : 0 ∉ (Executor.idle .standard).running := List.not_mem_nil
  have still : sys.env.clock.runs = false := rfl
  have positive : 0 < least.nanos := by decide
  have countable : 1 + timeout.nanos ⌈/⌉ least.nanos < 2 ^ 32 := by decide
  obtain ⟨tries, made, bounded⟩ :=
    run_attempts_bounded session timeout least work found free still positive countable
  have ⟨left, trail, _⟩ := made
  have forward := trail.forward (neverSetsBack_ofOutcomes _) still
  have delays : DelaysFor .standard least tries := by
    intro a member conflict ended isConflict
    obtain ⟨number, session, before, afterwards, after, attempted⟩ := trail.attempted a member
    rw [ended] at attempted
    cases attempted with
    | unborn never => cases isConflict
    | failed born worked =>
      cases worked
      exact ⟨_, rfl, by decide⟩
    | notCommitted born worked refused => cases worked
  obtain ⟨few, last⟩ := bounded forward delays
  have ten : 1 + timeout.nanos ⌈/⌉ least.nanos = 10 := by decide
  rw [ten] at few
  exact ⟨⟨found, free, still, positive, countable⟩, tries, made, few, last⟩

end

end SessionPooling.Executor
