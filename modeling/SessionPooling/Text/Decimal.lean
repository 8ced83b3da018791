/-! Decimal spellings of natural numbers: a fixed width, and a scaled value whose
fraction ends in no zero. Every number that appears inside a message goes through
these functions or through `Nat.repr`. -/
namespace SessionPooling.Text

/-- The decimal digits of `n`, with zeros in front up to `width` places. -/
def zeroPadded (width n : Nat) : String :=
  let digits := Nat.repr n
  String.ofList (List.replicate (width - digits.length) '0') ++ digits

def trimZeros (digits : List Char) : List Char :=
  (digits.reverse.dropWhile (· == '0')).reverse

/-- `n / 10 ^ places` written out. The point is there only when a digit other than
zero follows it. -/
def scaled (places n : Nat) : String :=
  let fraction := trimZeros (zeroPadded places (n % Nat.pow 10 places)).toList
  let whole := Nat.repr (n / Nat.pow 10 places)
  if fraction.isEmpty then whole else whole ++ "." ++ String.ofList fraction

end SessionPooling.Text
