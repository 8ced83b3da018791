/-! A source of numbers for random delays. It is a linear congruential generator of
sixty-four bits: the numbers are spread well enough to keep clients from retrying in step,
and a run that starts from the same seed draws the same numbers again. -/
namespace SessionPooling

/-- The state of the generator. -/
structure Dice where
  seed : Nat
deriving DecidableEq

namespace Dice

def initial : Dice := ⟨88172645463325252⟩

def next (dice : Dice) : Dice :=
  ⟨(dice.seed * 6364136223846793005 + 1442695040888963407) % 18446744073709551616⟩

/-- A number below `2 ^ 64` and the state after drawing it. The halves of the state change
places, since the low bits of such a generator repeat soon. -/
def draw (dice : Dice) : Nat × Dice :=
  let dice := dice.next
  (dice.seed / 4294967296 + dice.seed % 4294967296 * 4294967296, dice)

def draws : Nat → Dice → List Nat
  | 0, _ => []
  | count + 1, dice =>
    let (drawn, dice) := dice.draw
    drawn :: draws count dice

end Dice
end SessionPooling
