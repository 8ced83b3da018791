import Mathlib.Algebra.Group.Nat.Defs
import SessionPooling.Retry.Delay

/-! How long delays are. They are computed here in numbers without a limit. Where a duration has
a longest value and every step of the computation stops there, the delay is the same, since the
longest delay of the settings is never longer than that: so no step has to be watched for overflow,
and each delay is known exactly, but for its random part. -/
namespace SessionPooling

namespace Duration

/-- The longest duration whose seconds fit sixty-four bits. -/
def longest : Duration := ⟨maxWord * 1000000000 + 999999999⟩

def saturatingAdd (a b : Duration) : Duration := min (a + b) longest

def saturatingMul (d : Duration) (times : Nat) : Duration := min ⟨d.nanos * times⟩ longest

end Duration

namespace Retry

/-- The number of times that the first delay is taken, shifted in a field of thirty-two bits. -/
def multiplier (attempt : Nat) : Nat := (1 <<< min attempt doublingLimit) % 2 ^ 32

/-- The computed delay where every duration stops at the longest. -/
def saturatedDelay (config : RetryConfig) (attempt drawn : Nat) : Duration :=
  let grown := config.initialBackoff.saturatingMul (multiplier attempt)
  min (if config.jitter then grown.saturatingAdd (jitter config drawn) else grown) config.maxBackoff

section
variable {config : RetryConfig} {attempt drawn : Nat}

/-- No bit is shifted out of the field. -/
theorem multiplier_eq (attempt : Nat) : multiplier attempt = 2 ^ min attempt doublingLimit := by
  have few : min attempt doublingLimit < 32 := by
    unfold doublingLimit
    omega
  have fits : 2 ^ min attempt doublingLimit < 2 ^ 32 := Nat.pow_lt_pow_right (by decide) few
  rw [multiplier, Nat.shiftLeft_eq, Nat.one_mul, Nat.mod_eq_of_lt fits]

theorem maxBackoff_le_longest (fits : config.maxBackoffMs ≤ maxWord) :
    config.maxBackoff ≤ Duration.longest := by
  simp only [RetryConfig.maxBackoff, Duration.ofMillis, Duration.longest, Duration.le_iff]
  omega

theorem min_add_of_le {cap long : Nat} (short : cap ≤ long) (grown more : Nat) :
    min (min (min grown long + more) long) cap = min (grown + more) cap := by
  omega

/-- What a step cuts off lies beyond the longest delay, which is the last to be cut to. -/
theorem saturatedDelay_eq (fits : config.maxBackoffMs ≤ maxWord) (attempt drawn : Nat) :
    saturatedDelay config attempt drawn = computedDelay config attempt drawn := by
  have short := maxBackoff_le_longest fits
  have grown : (config.initialBackoff.saturatingMul (multiplier attempt)).nanos =
      min (backoff config attempt).nanos Duration.longest.nanos := by
    rw [Duration.saturatingMul, multiplier_eq]
    exact Duration.nanos_min _ _
  apply Duration.ext
  unfold saturatedDelay computedDelay
  split
  · simp only [Duration.saturatingAdd, Duration.nanos_min, Duration.nanos_add, grown]
    exact min_add_of_le short _ _
  · simp only [Duration.nanos_min, Duration.le_iff, grown] at short ⊢
    omega

theorem backoff_mono (config : RetryConfig) {attempt later : Nat} (le : attempt ≤ later) :
    backoff config attempt ≤ backoff config later := by
  have doublings : min attempt doublingLimit ≤ min later doublingLimit := by omega
  exact Nat.mul_le_mul_left _ (Nat.pow_le_pow_right (by decide) doublings)

theorem jitter_lt (config : RetryConfig) (drawn : Nat)
    (positive : 0 < config.initialBackoff.nanos) :
    jitter config drawn < config.initialBackoff := by
  have word : 0 < maxWord := by decide
  have bound : 0 < min config.initialBackoff.nanos maxWord := by omega
  have below := Nat.mod_lt drawn bound
  rw [jitter, if_neg (Nat.ne_of_gt bound), Duration.lt_iff]
  dsimp only
  omega

theorem jitter_eq_zero (none : config.initialBackoff.nanos = 0) (drawn : Nat) :
    jitter config drawn = .zero := by
  rw [jitter, if_pos (by omega)]

theorem computedDelay_of_fixed (fixed : config.jitter = false) (attempt drawn : Nat) :
    computedDelay config attempt drawn = min (backoff config attempt) config.maxBackoff := by
  simp only [computedDelay, fixed, Bool.false_eq_true, if_false]

theorem computedDelay_le (config : RetryConfig) (attempt drawn : Nat) :
    computedDelay config attempt drawn ≤ config.maxBackoff :=
  Nat.min_le_right _ _

/-- The random part only makes a delay longer. -/
theorem capped_le_computedDelay (config : RetryConfig) (attempt drawn : Nat) :
    min (backoff config attempt) config.maxBackoff ≤ computedDelay config attempt drawn := by
  unfold computedDelay
  split
  · simp only [Duration.le_iff, Duration.nanos_min, Duration.nanos_add]
    omega
  · exact Nat.le_refl _

theorem computedDelay_lt (config : RetryConfig) (attempt drawn : Nat)
    (positive : 0 < config.initialBackoff.nanos) :
    computedDelay config attempt drawn < backoff config attempt + config.initialBackoff := by
  have below := jitter_lt config drawn positive
  unfold computedDelay
  split
  · simp only [Duration.lt_iff, Duration.nanos_min, Duration.nanos_add] at below ⊢
    omega
  · simp only [Duration.lt_iff, Duration.nanos_min, Duration.nanos_add]
    omega

/-- Without a first delay there is no random part. -/
theorem computedDelay_of_zero (none : config.initialBackoff.nanos = 0) (attempt drawn : Nat) :
    computedDelay config attempt drawn = min (backoff config attempt) config.maxBackoff := by
  unfold computedDelay
  split
  · rw [jitter_eq_zero none]
    rfl
  · rfl

theorem computedDelay_of_reached (reached : config.maxBackoff ≤ backoff config attempt)
    (drawn : Nat) : computedDelay config attempt drawn = config.maxBackoff := by
  have least := capped_le_computedDelay config attempt drawn
  have most := computedDelay_le config attempt drawn
  apply Duration.ext
  simp only [Duration.le_iff, Duration.nanos_min] at *
  omega

theorem unhintedDelay_of_none (none : config.defaultRetryDelay = none) (attempt drawn : Nat) :
    unhintedDelay config attempt drawn = computedDelay config attempt drawn := by
  rw [unhintedDelay, none, Option.getD_none]

end

theorem toDuration?_of_fits {hint : RetryHint}
    (fits : hint.seconds + hint.nanos / 1000000000 ≤ maxWord) :
    hint.toDuration? = some ⟨hint.seconds * 1000000000 + hint.nanos⟩ := by
  have whole : (hint.seconds * 1000000000 + hint.nanos) / 1000000000 ≤ maxWord := by omega
  exact if_pos whole

/-- The delay after a conflict without a hint, where the settings name no fixed delay. -/
structure BacksOff (config : RetryConfig) (base delay : Duration) : Prop where
  least : min base config.maxBackoff ≤ delay
  most : delay ≤ config.maxBackoff
  below : 0 < config.initialBackoff.nanos → delay < base + config.initialBackoff
  undisturbed : config.jitter = false ∨ config.initialBackoff.nanos = 0 →
    delay = min base config.maxBackoff
  reached : config.maxBackoff ≤ base → delay = config.maxBackoff

/-- The delays of a run. Without a hint and a fixed delay, the first delay is doubled with each
attempt, thirty-one times at most; the delay is no less than that and no more than the longest
delay, and differs from the lesser of both only by a random part shorter than the first delay.
Without a random part it is exact and never gets shorter from one attempt to a later one. All this
is as it would be if every step of the computation stopped at the longest duration there is. A
fixed delay is taken as it is, and a hint is cut to the longest delay, whatever the attempt. -/
theorem delay_backs_off (config : RetryConfig) (fits : config.maxBackoffMs ≤ maxWord)
    (attempt drawn : Nat) :
    let base : Duration := ⟨config.initialBackoff.nanos * 2 ^ min attempt 31⟩
    (config.defaultRetryDelay = none →
      ∃ delay, delay? config none attempt drawn = some delay ∧
        delay = saturatedDelay config attempt drawn ∧ BacksOff config base delay ∧
        (config.jitter = false → ∀ later drawnLater, attempt ≤ later →
          ∃ longer, delay? config none later drawnLater = some longer ∧ delay ≤ longer)) ∧
    (∀ fixed, config.defaultRetryDelay = some fixed →
      delay? config none attempt drawn = some fixed) ∧
    ∀ hint : RetryHint, hint.seconds + hint.nanos / 1000000000 ≤ maxWord →
      delay? config (some hint) attempt drawn =
        some (min ⟨hint.seconds * 1000000000 + hint.nanos⟩ config.maxBackoff) := by
  intro base
  have doubled : backoff config attempt = base := rfl
  refine ⟨fun unset => ?_, fun fixed set => ?_, fun hint short => ?_⟩
  · refine ⟨computedDelay config attempt drawn, ?_, (saturatedDelay_eq fits attempt drawn).symm,
      ⟨?_, ?_, ?_, ?_, ?_⟩, ?_⟩
    · exact congrArg some (unhintedDelay_of_none unset attempt drawn)
    · exact capped_le_computedDelay config attempt drawn
    · exact computedDelay_le config attempt drawn
    · exact computedDelay_lt config attempt drawn
    · rintro (plain | none)
      · exact computedDelay_of_fixed plain attempt drawn
      · exact computedDelay_of_zero none attempt drawn
    · exact fun reached => computedDelay_of_reached reached drawn
    · intro plain later drawnLater le
      have grown := backoff_mono config le
      refine ⟨_, congrArg some (unhintedDelay_of_none unset later drawnLater), ?_⟩
      rw [computedDelay_of_fixed plain, computedDelay_of_fixed plain]
      simp only [Duration.le_iff, Duration.nanos_min] at grown ⊢
      omega
  · rw [delay?, unhintedDelay, set, Option.getD_some]
  · rw [delay?, toDuration?_of_fits short, Option.map_some]

/-- The largest settings there are. The first delay, doubled thirty-one times, is longer than the
longest duration, and is cut to the longest delay. -/
theorem delay_backs_off_of_largest :
    let config : RetryConfig := ⟨0, none, maxWord, maxWord, true⟩
    config.maxBackoffMs ≤ maxWord ∧
      delay? config none 40 7 = some config.maxBackoff ∧
      config.initialBackoff.saturatingMul (multiplier 40) = .longest ∧
      saturatedDelay config 40 7 = config.maxBackoff := by
  intro config
  have fits : config.maxBackoffMs ≤ maxWord := Nat.le_refl _
  obtain ⟨computed, -, -⟩ := delay_backs_off config fits 40 7
  obtain ⟨delay, told, same, backsOff, -⟩ := computed rfl
  have reached : delay = config.maxBackoff := backsOff.reached (by decide)
  exact ⟨fits, reached ▸ told, by decide +kernel, same ▸ reached⟩

end Retry
end SessionPooling
