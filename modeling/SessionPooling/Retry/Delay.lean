import SessionPooling.Config.Retry

/-! How long to wait after a conflict. A hint of the service comes first, then the fixed
delay of the settings, and otherwise the delay doubles with each attempt, with a random
part on top where the settings ask for one. The random part is an argument here, so the
function has one value for each number drawn. -/
namespace SessionPooling.Retry

/-- The number of doublings after which the delay grows no further. -/
def doublingLimit : Nat := 31

/-- The first delay, doubled once for each attempt. -/
def backoff (config : RetryConfig) (attempt : Nat) : Duration :=
  ⟨config.initialBackoff.nanos * Nat.pow 2 (min attempt doublingLimit)⟩

/-- A drawn number brought below the first delay; zero when that delay is zero. -/
def jitter (config : RetryConfig) (drawn : Nat) : Duration :=
  let bound := min config.initialBackoff.nanos maxWord
  if bound = 0 then .zero else ⟨drawn % bound⟩

def computedDelay (config : RetryConfig) (attempt drawn : Nat) : Duration :=
  let grown := backoff config attempt
  min (if config.jitter then grown + jitter config drawn else grown) config.maxBackoff

/-- The delay of a conflict without a hint. A fixed delay is not capped. -/
def unhintedDelay (config : RetryConfig) (attempt drawn : Nat) : Duration :=
  config.defaultRetryDelay.getD (computedDelay config attempt drawn)

/-- The delay after the conflict that ended attempt number `attempt`, counted from one.
There is none exactly when the hint is too long to be a duration. -/
def delay? (config : RetryConfig) (hint : Option RetryHint) (attempt drawn : Nat) :
    Option Duration :=
  match hint with
  | some hint => hint.toDuration?.map (min · config.maxBackoff)
  | none => some (unhintedDelay config attempt drawn)

end SessionPooling.Retry
