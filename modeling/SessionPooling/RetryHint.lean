import SessionPooling.Time.Duration
import SessionPooling.Text.Record

/-! The delay that the service suggests with a conflict, in the two parts in which it
arrives. The parts need not be normalised, so their sum can be too long for a duration
whose seconds fit sixty-four bits. -/
namespace SessionPooling

/-- The largest value of an unsigned field of sixty-four bits. -/
abbrev maxWord : Nat := 18446744073709551615

/-- The largest value of an unsigned field of thirty-two bits. -/
abbrev maxHalfWord : Nat := 4294967295

structure RetryHint where
  seconds : Nat
  nanos : Nat
deriving DecidableEq

namespace RetryHint

/-- The sum of the parts, unless its whole seconds pass sixty-four bits. -/
def toDuration? (hint : RetryHint) : Option Duration :=
  let total := Duration.ofSeconds hint.seconds + ⟨hint.nanos⟩
  if total.seconds ≤ maxWord then some total else none

def diagnostic (hint : RetryHint) : String :=
  Text.record "RetryDelay" [("seconds", Nat.repr hint.seconds), ("nanos", Nat.repr hint.nanos)]

end RetryHint
end SessionPooling
