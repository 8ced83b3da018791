import SessionPooling.Dice
import SessionPooling.Retry.Delay

/-! How random delays spread. A sample of delays lies between the delay without a random
part and that delay plus the first one, and never passes the longest delay. -/
namespace SessionPooling.Retry

structure Spread where
  inRange : Bool
  fixed : Bool
deriving DecidableEq

def floorDelay (config : RetryConfig) (attempt : Nat) : Duration :=
  unhintedDelay (config.withJitter false) attempt 0

/-- The end of the range, which is itself in it only where it is the longest delay. -/
def ceilDelay (config : RetryConfig) (attempt : Nat) : Duration :=
  min (floorDelay config attempt + config.initialBackoff) config.maxBackoff

def liesInRange (config : RetryConfig) (attempt : Nat) (delay : Duration) : Bool :=
  let ceil := ceilDelay config attempt
  decide (floorDelay config attempt ≤ delay) &&
    (decide (delay < ceil) || (delay == ceil && ceil == config.maxBackoff))

def spread (config : RetryConfig) (attempt samples : Nat) : Spread :=
  let delays := (Dice.initial.draws samples).map (unhintedDelay config attempt)
  { inRange := delays.all (liesInRange config attempt)
    fixed := delays.all (· == floorDelay config attempt) }

end SessionPooling.Retry
