/-! Reading one character at a time. A scan is in a phase; each character either is taken
and leads to the next phase, or ends the scan. Whatever a scan gives back is a suffix of
what it was given, so readers built from scans only ever shorten their input. -/
namespace SessionPooling.Toml

/-- What one character does to a scan, and the characters it adds to the result. -/
inductive Move (φ : Type) where
  | go (written : List Char) (next : φ)
  | stop (written : List Char)
  | stopBefore (written : List Char)

/-- How a scan moves, and what it adds when the input ends; `none` refuses the input. -/
structure Scan (φ : Type) where
  step : φ → Char → Option (Move φ)
  atEnd : φ → Option (List Char)

/-- Runs a scan. The result is what was read and the rest of the input. -/
def Scan.run (scan : Scan φ) : φ → List Char → Option (List Char × List Char)
  | phase, [] => (scan.atEnd phase).map fun written => (written, [])
  | phase, c :: rest =>
    match scan.step phase c with
    | none => none
    | some (.go written next) =>
      (scan.run next rest).map fun (read, rest) => (written ++ read, rest)
    | some (.stop written) => some (written, rest)
    | some (.stopBefore written) => some (written, c :: rest)

def isBlank (c : Char) : Bool := c == ' ' || c == '\t'

def skipBlanks (input : List Char) : List Char := input.dropWhile isBlank

/-- Characters that may stand in comments and in literal strings: tabs and everything
that is not a control character. -/
def isPlain (c : Char) : Bool := c == '\t' || (32 ≤ c.toNat && c.toNat != 127)

def newline? : List Char → Option (List Char)
  | '\n' :: rest => some rest
  | '\r' :: '\n' :: rest => some rest
  | _ => none

/-- Passes a comment, if one starts here, up to the end of its line. -/
def skipComment : List Char → List Char
  | '#' :: rest => rest.dropWhile isPlain
  | input => input

/-- What may follow an expression on its line: blanks, a comment, and the end of the line
or of the input. -/
def lineEnd? (input : List Char) : Option (List Char) :=
  match skipComment (skipBlanks input) with
  | [] => some []
  | rest => newline? rest

/-- Passes blanks, comments and line ends, as between the items of a list. The count
bounds the number of line ends. -/
def skipLines : Nat → List Char → List Char
  | 0, input => skipBlanks input
  | count + 1, input =>
    match newline? (skipComment (skipBlanks input)) with
    | some rest => skipLines count rest
    | none => skipBlanks input

end SessionPooling.Toml
