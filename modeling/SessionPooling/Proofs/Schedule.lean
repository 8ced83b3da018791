import SessionPooling.Outcome
import SessionPooling.Retry.Delay
import SessionPooling.Time.Instant

/-! The schedule of a retrying run, as a function of what happens to it: how each of its
attempts ends, and when. It knows nothing of sessions, services and clocks that move. -/
namespace SessionPooling.Retry
variable {α : Type}

/-- An attempt as it is seen when it is over. -/
structure Seen (α : Type) where
  ending : Outcome α
  time : Instant
  /-- The number for the random part of a delay, which counts only where settings ask for one. -/
  drawn : Nat

inductive Step (α : Type) where
  | stop (result : Outcome α)
  | pause (delay : Duration)

/-- After a conflict there is another attempt, unless the deadline is reached or the delay would
end after it. A hint that is too long to be a duration is no delay. -/
def afterConflict (config : RetryConfig) (deadline : Option Instant) (number : Nat)
    (conflict : Failure) (time : Instant) (drawn : Nat) : Step α :=
  if deadline.any fun latest => decide (latest ≤ time) then .stop (.error conflict)
  else
    match delay? config conflict.hint? number drawn with
    | none => .stop .panic
    | some delay =>
      if deadline.any fun latest => decide (latest < time.after delay) then .stop (.error conflict)
      else .pause delay

/-- What follows attempt number `number`. What is no conflict ends the run as it is. -/
def next (config : RetryConfig) (deadline : Option Instant) (number : Nat) (seen : Seen α) :
    Step α :=
  match seen.ending with
  | .error e =>
    if e.isConflict then afterConflict config deadline number e seen.time seen.drawn
    else .stop (.error e)
  | ending => .stop ending

structure Plan (α : Type) where
  attempts : Nat
  sleeps : List Duration
  /-- Absent as long as another attempt is to follow. -/
  result : Option (Outcome α)

/-- The attempts that are made of those that could be, the sleeps between them, and the result,
when the first of them has number `number`. -/
def schedule (config : RetryConfig) (deadline : Option Instant) : Nat → List (Seen α) → Plan α
  | _, [] => ⟨0, [], none⟩
  | number, seen :: rest =>
    match next config deadline number seen with
    | .stop result => ⟨1, [], some result⟩
    | .pause delay =>
      let plan := schedule config deadline (number + 1) rest
      ⟨plan.attempts + 1, delay :: plan.sleeps, plan.result⟩

/-- A conflict that is followed by a pause comes before the deadline, and the pause does not end
after it. -/
theorem next_pause {config : RetryConfig} {deadline : Option Instant} {number : Nat}
    {seen : Seen α} {delay : Duration} (pauses : next config deadline number seen = .pause delay) :
    ∃ conflict, seen.ending = .error conflict ∧ conflict.isConflict ∧
      delay? config conflict.hint? number seen.drawn = some delay ∧
      ∀ latest ∈ deadline, seen.time < latest ∧ seen.time.after delay ≤ latest := by
  obtain ⟨ending, time, drawn⟩ := seen
  cases ending with
  | ok value => cases pauses
  | panic => cases pauses
  | error conflict =>
    unfold next at pauses
    dsimp only at pauses
    split at pauses
    case isFalse => cases pauses
    case isTrue isConflict =>
      unfold afterConflict at pauses
      split at pauses
      case isTrue => cases pauses
      case isFalse early =>
        split at pauses
        · cases pauses
        next delay hinted =>
          split at pauses
          case isTrue => cases pauses
          case isFalse inTime =>
            cases pauses
            refine ⟨conflict, rfl, isConflict, hinted, fun latest isDeadline => ?_⟩
            obtain rfl : deadline = some latest := isDeadline
            simp only [Option.any_some, decide_eq_true_eq, Instant.le_iff, Instant.lt_iff] at *
            omega

/-- A run stops with the ending of its last attempt as it is, unless it cannot tell how long to
wait. -/
theorem next_stop {config : RetryConfig} {deadline : Option Instant} {number : Nat}
    {seen : Seen α} {result : Outcome α} (stops : next config deadline number seen = .stop result) :
    result = seen.ending ∨
      ∃ conflict, seen.ending = .error conflict ∧ conflict.isConflict ∧
        delay? config conflict.hint? number seen.drawn = none := by
  obtain ⟨ending, time, drawn⟩ := seen
  cases ending with
  | ok value => exact .inl (Step.stop.inj stops).symm
  | panic => exact .inl (Step.stop.inj stops).symm
  | error conflict =>
    unfold next at stops
    dsimp only at stops
    split at stops
    case isFalse => exact .inl (Step.stop.inj stops).symm
    case isTrue isConflict =>
      unfold afterConflict at stops
      split at stops
      case isTrue => exact .inl (Step.stop.inj stops).symm
      case isFalse =>
        split at stops
        next untold => exact .inr ⟨conflict, rfl, isConflict, untold⟩
        next =>
          split at stops
          case isTrue => exact .inl (Step.stop.inj stops).symm
          case isFalse => cases stops

theorem next_of_late {config : RetryConfig} {latest : Instant} {number : Nat} {seen : Seen α}
    {conflict : Failure} (ended : seen.ending = .error conflict)
    (isConflict : conflict.isConflict) (late : latest ≤ seen.time) :
    next config (some latest) number seen = .stop (.error conflict) := by
  have reached : (some latest).any (fun latest => decide (latest ≤ seen.time)) = true :=
    decide_eq_true late
  unfold next
  rw [ended]
  dsimp only
  rw [if_pos isConflict, afterConflict, if_pos reached]

/-- The least that the delay after a conflict with such a hint can be, whatever the attempt and
whatever is drawn. -/
def leastDelay? (config : RetryConfig) (hint : Option RetryHint) : Option Duration :=
  match hint with
  | some hint => hint.toDuration?.map (min · config.maxBackoff)
  | none => some (config.defaultRetryDelay.getD (min config.initialBackoff config.maxBackoff))

theorem initialBackoff_le_backoff (config : RetryConfig) (number : Nat) :
    config.initialBackoff ≤ backoff config number := by
  rw [Duration.le_iff, backoff]
  exact Nat.le_mul_of_pos_right _ (Nat.two_pow_pos _)

theorem le_computedDelay (config : RetryConfig) (number drawn : Nat) :
    min config.initialBackoff config.maxBackoff ≤ computedDelay config number drawn := by
  have grown := initialBackoff_le_backoff config number
  unfold computedDelay
  split <;> simp only [Duration.le_iff, Duration.nanos_min, Duration.nanos_add] at * <;> omega

theorem exists_delay_of_least {config : RetryConfig} {hint : Option RetryHint} {least : Duration}
    (told : leastDelay? config hint = some least) (number drawn : Nat) :
    ∃ delay, delay? config hint number drawn = some delay ∧ least ≤ delay := by
  cases hint with
  | some hint => exact ⟨least, told, Nat.le_refl _⟩
  | none =>
    refine ⟨_, rfl, ?_⟩
    obtain rfl := Option.some.inj told
    unfold unhintedDelay
    cases config.defaultRetryDelay with
    | some delay =>
      rw [Option.getD_some, Option.getD_some]
      exact Nat.le_refl _
    | none => exact le_computedDelay config number drawn

end SessionPooling.Retry
