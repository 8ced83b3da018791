import SessionPooling.Toml.Text

/-! Numbers of TOML documents. Digits may be grouped by single underscores; an integer has
sixty-four bits with a sign; a decimal number starts with a zero only when it is zero. -/
namespace SessionPooling.Toml

/-- Whether a list of characters is digits, with single underscores between some of them. -/
def groupedBy (isDigit : Char → Bool) : List Char → Bool
  | [] => false
  | [c] => isDigit c
  | c :: '_' :: rest => isDigit c && groupedBy isDigit rest
  | c :: rest => isDigit c && groupedBy isDigit rest

def digitsValue (base : Nat) (digits : List Char) : Nat :=
  digits.foldl (fun value c => (hexDigit? c).elim value fun d => value * base + d) 0

def isDecimal (digits : List Char) : Bool :=
  groupedBy Char.isDigit digits && (digits == ['0'] || digits.head? != some '0')

/-- Splits off a sign; the flag is set for a minus. -/
def splitSign : List Char → Bool × List Char
  | '-' :: rest => (true, rest)
  | '+' :: rest => (false, rest)
  | input => (false, input)

def inRange (n : Int) : Bool := decide (-9223372036854775808 ≤ n ∧ n ≤ 9223372036854775807)

def basedInteger? (base : Nat) (isDigit : Char → Bool) (digits : List Char) : Option Int :=
  if groupedBy isDigit digits then some (digitsValue base digits) else none

/-- An integer of any size, in one of the four bases. -/
def anyInteger? : List Char → Option Int
  | '0' :: 'x' :: digits => basedInteger? 16 (fun c => (hexDigit? c).isSome) digits
  | '0' :: 'o' :: digits => basedInteger? 8 (fun c => '0' ≤ c && c ≤ '7') digits
  | '0' :: 'b' :: digits => basedInteger? 2 (fun c => c == '0' || c == '1') digits
  | token =>
    let (negative, digits) := splitSign token
    if isDecimal digits then
      let value : Int := digitsValue 10 digits
      some (if negative then -value else value)
    else none

def integer? (token : List Char) : Option Int :=
  match anyInteger? token with
  | some n => if inRange n then some n else none
  | none => none

/-- A number with a fraction or an exponent, split into the digits before and after the
point and the exponent. -/
structure FloatParts where
  whole : List Char
  fraction : List Char
  negativeExponent : Bool
  exponent : List Char

def isExponentMark (c : Char) : Bool := c == 'e' || c == 'E'

def floatParts? (token : List Char) : Option FloatParts :=
  let (_, unsigned) := splitSign token
  let whole := unsigned.takeWhile fun c => c != '.' && !isExponentMark c
  let rest := unsigned.drop whole.length
  let (fraction, rest) :=
    match rest with
    | '.' :: rest =>
      let fraction := rest.takeWhile fun c => !isExponentMark c
      (some fraction, rest.drop fraction.length)
    | _ => (none, rest)
  let exponent :=
    match rest with
    | _ :: rest => some (splitSign rest)
    | [] => none
  let grouped := fun digits : Option (List Char) => digits.all (groupedBy Char.isDigit)
  if (fraction.isSome || exponent.isSome) && isDecimal whole && grouped fraction &&
      grouped (exponent.map (·.2)) then
    some
      { whole
        fraction := fraction.getD []
        negativeExponent := exponent.any (·.1)
        exponent := (exponent.map (·.2)).getD [] }
  else none

/-- The smallest number that is rounded to infinity in sixty-four bits. -/
def overflowBound : Nat := Nat.pow 2 1024 - Nat.pow 2 970

/-- Whether a float is too large for sixty-four bits. The powers of ten stay small: a number
that is not zero passes the bound when more than 400 places stand before its point. -/
def FloatParts.overflows (parts : FloatParts) : Bool :=
  let digits := (parts.whole ++ parts.fraction).filter (· != '_')
  let mantissa := digitsValue 10 digits
  let shift : Int := digitsValue 10 parts.exponent
  let places : Int :=
    (if parts.negativeExponent then -shift else shift) -
      (parts.fraction.filter (· != '_')).length
  if mantissa = 0 then false
  else if places > 400 then true
  else if 0 ≤ places then decide (overflowBound ≤ mantissa * Nat.pow 10 places.toNat)
  else
    let scale := (-places).toNat
    if digits.length < scale then false else decide (overflowBound * Nat.pow 10 scale ≤ mantissa)

def isSpecialFloat (token : List Char) : Bool :=
  let (_, unsigned) := splitSign token
  unsigned == ['i', 'n', 'f'] || unsigned == ['n', 'a', 'n']

/-- Whether a token is a float. A negative number too large counts as minus infinity, a
positive one is refused. -/
def isFloat (token : List Char) : Bool :=
  isSpecialFloat token ||
    match floatParts? token with
    | some parts => (splitSign token).1 || !parts.overflows
    | none => false

end SessionPooling.Toml
