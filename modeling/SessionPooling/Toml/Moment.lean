import SessionPooling.Toml.Number

/-! Dates and times of TOML documents. No field of the library takes one; they are read so
that a document that holds one elsewhere is still read, and one with a day that does not
exist is refused. -/
namespace SessionPooling.Toml

/-- The number spelled by exactly `width` digits at the start, and the rest. -/
def fixedDigits? (width : Nat) (input : List Char) : Option (Nat × List Char) :=
  let digits := input.take width
  if digits.length = width ∧ digits.all Char.isDigit then
    some (digitsValue 10 digits, input.drop width)
  else none

def expect? (wanted : List Char) : List Char → Option (List Char)
  | c :: rest => if wanted.contains c then some rest else none
  | [] => none

def isLeapYear (year : Nat) : Bool := year % 4 == 0 && (year % 100 != 0 || year % 400 == 0)

def daysIn (year month : Nat) : Nat :=
  if month == 2 then (if isLeapYear year then 29 else 28)
  else if [4, 6, 9, 11].contains month then 30
  else 31

def date? (input : List Char) : Option (List Char × List Char) := do
  let (year, rest) ← fixedDigits? 4 input
  let rest ← expect? ['-'] rest
  let (month, rest) ← fixedDigits? 2 rest
  let rest ← expect? ['-'] rest
  let (day, rest) ← fixedDigits? 2 rest
  if 1 ≤ month ∧ month ≤ 12 ∧ 1 ≤ day ∧ day ≤ daysIn year month then
    some (input.take 10, rest)
  else none

/-- Parts of a second are kept to nine digits, without the zeros that end them. -/
def secondsFraction (digits : List Char) : List Char :=
  match ((digits.take 9).reverse.dropWhile (· == '0')).reverse with
  | [] => []
  | kept => '.' :: kept

def timeOfDay? (input : List Char) : Option (List Char × List Char) := do
  let (hour, rest) ← fixedDigits? 2 input
  let rest ← expect? [':'] rest
  let (minute, rest) ← fixedDigits? 2 rest
  let rest ← expect? [':'] rest
  let (second, rest) ← fixedDigits? 2 rest
  if hour < 24 ∧ minute < 60 ∧ second ≤ 60 then
    match rest with
    | '.' :: rest =>
      let digits := rest.takeWhile Char.isDigit
      if digits.isEmpty then none
      else some (input.take 8 ++ secondsFraction digits, rest.drop digits.length)
    | _ => some (input.take 8, rest)
  else none

/-- The sign of an offset. An offset of nothing counts as one to the east. -/
def offsetSign (sign : Char) (hour minute : Nat) : Char :=
  if hour = 0 ∧ minute = 0 then '+' else sign

/-- The offset of a time from universal time, as its text; empty for a local time. -/
def offset? (input : List Char) : Option (List Char × List Char) :=
  match input with
  | 'Z' :: rest | 'z' :: rest => some (['Z'], rest)
  | sign :: rest =>
    if sign == '+' || sign == '-' then do
      let (hour, after) ← fixedDigits? 2 rest
      let after ← expect? [':'] after
      let (minute, after) ← fixedDigits? 2 after
      if hour < 24 ∧ minute < 60 then some (offsetSign sign hour minute :: rest.take 5, after)
      else none
    else some ([], input)
  | [] => some ([], [])

def timeAfterDate? (input : List Char) : Option (List Char × List Char) := do
  let rest ← expect? ['T', 't', ' '] input
  let (time, rest) ← timeOfDay? rest
  let (offset, rest) ← offset? rest
  some ('T' :: time ++ offset, rest)

def moment? (input : List Char) : Option (List Char × List Char) :=
  match date? input with
  | some (date, rest) =>
    match timeAfterDate? rest with
    | some (time, rest) => some (date ++ time, rest)
    | none => some (date, rest)
  | none => timeOfDay? input

end SessionPooling.Toml
