import SessionPooling.Proofs.Backoff
import SessionPooling.Proofs.CallTree
import SessionPooling.Proofs.Deadline

/-! Hints that are too long, and the panics of runs. A hint is cut to the longest delay of the
settings, but only once it is a duration, and the parts of a hint can be too long for that. After a
conflict with such a hint a run panics, unless its deadline is reached before it looks at the hint;
the only other panics of a run are those of its work, and that of a run that has no number left for
another attempt. -/
namespace SessionPooling

/-- The whole seconds of the sum of the parts pass sixty-four bits. -/
def RetryHint.Overlong (hint : RetryHint) : Prop :=
  maxWord < hint.seconds + hint.nanos / 1000000000

theorem RetryHint.toDuration?_eq_none {hint : RetryHint} (long : hint.Overlong) :
    hint.toDuration? = none := by
  have whole : ¬ (hint.seconds * 1000000000 + hint.nanos) / 1000000000 ≤ maxWord := by
    rw [Overlong] at long
    omega
  exact if_neg whole

/-- Parts that are normalised are never too long together. -/
theorem RetryHint.Overlong.not_normalised {hint : RetryHint} (long : hint.Overlong)
    (word : hint.seconds ≤ maxWord) : 1000000000 ≤ hint.nanos := by
  rw [Overlong] at long
  omega

instance Outcome.decidableEqPanic {α : Type} : (outcome : Outcome α) → Decidable (outcome = .panic)
  | .panic => isTrue rfl
  | .ok _ => isFalse nofun
  | .error _ => isFalse nofun

theorem Failure.isConflict_of_hint? {e : Failure} {hint : RetryHint}
    (hinted : e.hint? = some hint) : e.isConflict := by
  cases e with
  | aborted message hint => rfl
  | _ => cases hinted

namespace Retry
variable {α : Type} {config : RetryConfig} {deadline : Option Instant} {number drawn : Nat}

theorem delay?_of_fits {hint : RetryHint} (fits : ¬ hint.Overlong) :
    delay? config (some hint) number drawn =
      some (min ⟨hint.seconds * 1000000000 + hint.nanos⟩ config.maxBackoff) := by
  rw [delay?, toDuration?_of_fits (Nat.le_of_not_lt fits), Option.map_some]

theorem delay?_of_overlong {hint : RetryHint} (long : hint.Overlong) :
    delay? config (some hint) number drawn = none := by
  rw [delay?, RetryHint.toDuration?_eq_none long, Option.map_none]

theorem delay?_eq_none_iff (config : RetryConfig) (hint : Option RetryHint) (number drawn : Nat) :
    delay? config hint number drawn = none ↔ ∃ long ∈ hint, long.Overlong := by
  constructor
  · intro untold
    cases hint with
    | none => cases untold
    | some hint =>
      by_cases long : hint.Overlong
      · exact ⟨hint, rfl, long⟩
      · rw [delay?_of_fits long] at untold
        cases untold
  · rintro ⟨long, rfl, overlong⟩
    exact delay?_of_overlong overlong

/-- What makes a run panic, as it is seen when an attempt is over. -/
inductive Seen.Panics (deadline : Option Instant) (seen : Seen α) : Prop where
  | work (panicked : seen.ending = .panic)
  | hint {conflict : Failure} {long : RetryHint} (ended : seen.ending = .error conflict)
      (hinted : conflict.hint? = some long) (overlong : long.Overlong)
      (early : ∀ latest ∈ deadline, seen.time < latest)

theorem any_le_iff {time : Instant} :
    deadline.any (fun latest => decide (latest ≤ time)) ↔ ¬ ∀ latest ∈ deadline, time < latest := by
  cases deadline with
  | none => simp
  | some latest => simp

theorem afterConflict_panic_iff {conflict : Failure} {time : Instant} :
    afterConflict (α := α) config deadline number conflict time drawn = .stop .panic ↔
      (∀ latest ∈ deadline, time < latest) ∧ ∃ long ∈ conflict.hint?, long.Overlong := by
  rw [← delay?_eq_none_iff config _ number drawn]
  unfold afterConflict
  split
  next late => exact ⟨nofun, fun ⟨early, _⟩ => absurd early (any_le_iff.1 late)⟩
  next early =>
    rw [any_le_iff, not_not] at early
    split
    next untold => exact ⟨fun _ => ⟨early, untold⟩, fun _ => rfl⟩
    next delay told =>
      have goesOn {step : Step α} (other : step ≠ .stop .panic) :
          step = .stop .panic ↔ (∀ latest ∈ deadline, time < latest) ∧
            delay? config conflict.hint? number drawn = none := by
        refine ⟨fun same => absurd same other, fun ⟨_, untold⟩ => ?_⟩
        cases untold.symm.trans told
      split
      · exact goesOn nofun
      · exact goesOn nofun

theorem next_panic_iff {seen : Seen α} :
    next config deadline number seen = .stop .panic ↔ seen.Panics deadline := by
  obtain ⟨ending, time, drawn⟩ := seen
  constructor
  · intro stops
    cases ending with
    | ok value => cases stops
    | panic => exact .work rfl
    | error conflict =>
      unfold next at stops
      dsimp only at stops
      split at stops
      · obtain ⟨early, long, hinted, overlong⟩ := afterConflict_panic_iff.1 stops
        exact .hint rfl hinted overlong early
      · cases stops
  · rintro (panicked | ⟨ended, hinted, overlong, early⟩)
    · obtain rfl : ending = .panic := panicked
      rfl
    · obtain rfl : ending = .error _ := ended
      have isConflict := Failure.isConflict_of_hint? hinted
      unfold next
      dsimp only
      rw [if_pos isConflict]
      exact afterConflict_panic_iff.2 ⟨early, _, hinted, overlong⟩

end Retry

namespace Executor
variable {σ κ α : Type}

section
variable {config : RetryConfig} {deadline : Option Instant} {number : Nat} {tries : List (Try α)}
  {result : Option (Outcome α)}

/-- A run that has come to a result panics just if one of its attempts makes it. -/
theorem Kept.panic_iff (kept : Kept config deadline number tries result) :
    result = some .panic ↔ ∃ a ∈ tries, a.seen.Panics deadline := by
  induction kept with
  | nil => simp
  | @last number a result plain stops none =>
    simp only [List.mem_singleton, exists_eq_left]
    rw [← Retry.next_panic_iff, stops, Option.some.injEq, Retry.Step.stop.injEq]
  | @next number a delay tries result plain follows slept rest ih =>
    have goesOn : ¬ a.seen.Panics deadline := by
      rw [← Retry.next_panic_iff, follows]
      nofun
    simp only [List.mem_cons, exists_eq_or_imp]
    exact ih.trans (or_iff_right goesOn).symm

/-- It has come to none just if there is a pause after each attempt. -/
theorem Kept.result_eq_none_iff (kept : Kept config deadline number tries result) :
    result = none ↔ ∀ a ∈ tries, a.pause.isSome := by
  induction kept with
  | nil => simp
  | last plain stops none => simp [none]
  | next plain follows slept rest ih => simp [slept, ih]

end

variable [Service σ]

/-- An attempt panics just as its work does. -/
theorem Made.work_panics {x : Nat} {thread : Thread} {work : Work σ κ α} {session : Session}
    {sys final : System σ κ} {tries : List (Try α)} {a : Try α}
    (made : Made x thread work session sys tries final) (member : a ∈ tries)
    (panicked : a.ending = .panic) :
    ∃ number t before, (work number t before).1.1 = .panic := by
  obtain ⟨left, trail, -⟩ := made
  obtain ⟨number, session, before, afterwards, after, attempted⟩ := trail.attempted a member
  rw [panicked] at attempted
  cases attempted with
  | panicked born worked => exact ⟨number, _, before, congrArg (·.1.1) worked⟩

/-- How a run that was let in comes to panic. -/
theorem runWithTimeout_panic_iff {x : Nat} {thread : Thread} {sys : System σ κ}
    {executor : Executor} (session : Session) (timeout : Option Duration) (work : Work σ κ α)
    (found : sys.executors[x]? = some executor) (free : thread ∉ executor.running) :
    let ended := runWithTimeout x thread session timeout work sys
    ∃ tries, Made x thread work session sys tries ended.2 ∧
      (ended.1.1 = .panic ↔
        (∃ a ∈ tries, a.seen.Panics (timeout.map sys.env.clock.now.after)) ∨
          tries.length = attemptLimit ∧ ∀ a ∈ tries, a.pause.isSome) := by
  intro ended
  obtain ⟨tries, left, same, trail, ⟨result, kept, ends⟩, -⟩ :=
    runWithTimeout_made session timeout work found free
  refine ⟨tries, ⟨left, trail, same⟩, ?_⟩
  rw [← kept.panic_iff, ← kept.result_eq_none_iff]
  obtain rfl | ⟨rfl, all, panicked⟩ := ends
  · refine ⟨fun panicked => .inl (congrArg some panicked), ?_⟩
    rintro (same | ⟨-, unfinished⟩)
    · exact Option.some.inj same
    · cases unfinished
  · exact ⟨fun _ => .inr ⟨all, rfl⟩, fun _ => panicked⟩

theorem invoke_of_found {x : Nat} {thread : Thread} {sys : System σ κ} {executor : Executor}
    (session : Session) (limit : Option (Option Duration)) (work : Work σ κ α)
    (found : sys.executors[x]? = some executor) :
    invoke x thread session limit work sys =
      runWithTimeout x thread session (limit.getD executor.config.timeout) work sys := by
  cases limit with
  | none => rw [invoke, run, found, Option.bind_some, Option.getD_none]
  | some timeout => rfl

/-- Hints and panics. A hint is cut to the longest delay of the settings, however long it is, as
long as it is a duration; a hint is none, and then there is no delay, just if the whole seconds of
its parts together pass sixty-four bits, for which the parts must not be normalised. A call of an
executor that is let in panics just if the work of one of its attempts does, or an attempt ends
before the deadline in a conflict with such a hint, or there are no numbers left for further
attempts. A call that is refused does not panic, and a call on a session of a pool is a call on
the session that it takes, which it gives back then, too. -/
theorem invoke_panics_iff (x : Nat) (thread : Thread) (work : Work σ κ α) :
    (∀ config hint attempt drawn,
      (Retry.delay? config hint attempt drawn = none ↔ ∃ long ∈ hint, long.Overlong) ∧
      ∀ fitting ∈ hint, ¬ fitting.Overlong → Retry.delay? config hint attempt drawn =
        some (min ⟨fitting.seconds * 1000000000 + fitting.nanos⟩ config.maxBackoff)) ∧
    (∀ hint : RetryHint, hint.seconds ≤ maxWord → hint.Overlong → 1000000000 ≤ hint.nanos) ∧
    (∀ session limit sys executor, sys.executors[x]? = some executor →
      let ended := invoke x thread session limit work sys
      (thread ∈ executor.running → ended = ((.error .nestedTransaction, session), sys)) ∧
      (thread ∉ executor.running → ∃ tries, Made x thread work session sys tries ended.2 ∧
        let deadline := (limit.getD executor.config.timeout).map sys.env.clock.now.after
        (ended.1.1 = .panic ↔ (∃ a ∈ tries, a.seen.Panics deadline) ∨
          tries.length = attemptLimit ∧ ∀ a ∈ tries, a.pause.isSome) ∧
        ∀ a ∈ tries, a.ending = .panic → ∃ number t before, (work number t before).1.1 = .panic)) ∧
    ∀ pool session sys taken, Sys.onPool pool (·.get none) sys = (.ok session, taken) →
      let ended := invoke x thread session none work taken
      runPooled x thread pool work sys =
        (ended.1.1, (Checkout.giveBack pool ended.1.2 ended.2).2) := by
  refine ⟨fun config hint attempt drawn => ⟨Retry.delay?_eq_none_iff _ _ _ _, ?_⟩,
    fun hint word long => long.not_normalised word, fun session limit sys executor found => ?_,
    fun pool session sys taken got => ?_⟩
  · rintro fitting ⟨⟩ fits
    exact Retry.delay?_of_fits fits
  · rw [invoke_of_found session limit work found]
    refine ⟨fun busy => ?_, fun free => ?_⟩
    · simp only [runWithTimeout, found, if_pos busy]
    · obtain ⟨tries, made, panics⟩ :=
        runWithTimeout_panic_iff session (limit.getD executor.config.timeout) work found free
      exact ⟨tries, made, panics, fun a member => made.work_panics member⟩
  · simp only [runPooled, Checkout.scope, bind, StateT.bind, got]
    rfl

/-- The longest hint whose parts are normalised. -/
theorem invoke_panics_iff_of_capped :
    let config := { RetryConfig.standard with timeoutSecs := 60 }
    let hint : RetryHint := ⟨maxWord, 999999999⟩
    let sys := besieged config (.startingAt ⟨0, by decide⟩) [.aborted "busy" (some hint)]
    let session := Session.existing ⟨"session-1"⟩ 0 .empty ⟨0, by decide⟩
    let work := Work.ofOutcomes fun _ => .ok ()
    let ended := invoke 0 0 session none work sys
    (sys.executors[0]? = some (.idle config) ∧ 0 ∉ (Executor.idle config).running ∧
      ¬ hint.Overlong) ∧
    Retry.delay? config (some hint) 1 0 = some (.ofSeconds 32) ∧
    ended.2.env.clock.sleeps = [.ofSeconds 32] ∧
    ∃ tries, Made 0 0 work session sys tries ended.2 ∧
      ∀ a ∈ tries, ¬ a.seen.Panics (config.timeout.map sys.env.clock.now.after) := by
  intro config hint sys session work ended
  have found : sys.executors[0]? = some (.idle config) := rfl
  have free : 0 ∉ (Executor.idle config).running := List.not_mem_nil
  have fits : ¬ hint.Overlong := by
    rw [RetryHint.Overlong]
    decide
  have goesWell : ended.1.1 ≠ .panic := by decide +kernel
  obtain ⟨told, -, calls, -⟩ := invoke_panics_iff 0 0 work
  obtain ⟨tries, made, panics, -⟩ := (calls session none sys _ found).2 free
  -- The call goes by its name again, lest it be computed wherever it is mentioned.
  have named : invoke 0 0 session none work sys = ended := rfl
  rw [named] at made panics
  have cut : min ⟨hint.seconds * 1000000000 + hint.nanos⟩ config.maxBackoff = .ofSeconds 32 := by
    decide +kernel
  have capped := (told config (some hint) 1 0).2 hint rfl fits
  exact ⟨⟨found, free, fits⟩, capped.trans (congrArg some cut), by decide +kernel, tries, made,
    fun a member panicking => goesWell (panics.2 (.inl ⟨a, member, panicking⟩))⟩

/-- A hint of the service that is one second too long. Work that never panics is the work of a run
that panics. -/
theorem overlong_hint_panics :
    let hint : RetryHint := ⟨maxWord, 1000000000⟩
    let sys := besieged .standard (.startingAt ⟨0, by decide⟩) [.aborted "busy" (some hint)]
    let session := Session.existing ⟨"session-1"⟩ 0 .empty ⟨0, by decide⟩
    let work : Work Fleet Unit Unit := .ofOutcomes fun _ => .ok ()
    (hint.seconds ≤ maxWord ∧ hint.nanos ≤ maxHalfWord ∧
      ∀ number t sys, (work number t sys).1.1 ≠ .panic) ∧
    Retry.delay? .standard (some hint) 1 0 = none ∧
    (run 0 0 session work sys).1.1 = .panic := by
  intro hint sys session work
  refine ⟨⟨by decide, by decide, fun number t sys => nofun⟩, by decide, by decide +kernel⟩

end Executor
end SessionPooling
