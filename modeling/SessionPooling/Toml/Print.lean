import SessionPooling.Data.Datum
import SessionPooling.Toml.Number
import SessionPooling.Toml.TextForm

/-! Writing TOML documents: sections of simple values under headers, with one blank line
between sections. -/
namespace SessionPooling.Toml

/-- The text of a value that holds no other. Numbers outside the integers of a document
have none. -/
def printValue? : Datum → Option (List Char)
  | .text s => some (printText s)
  | .bool b => some (if b then ['t', 'r', 'u', 'e'] else ['f', 'a', 'l', 's', 'e'])
  | .integer n => if inRange n then some (toString n).toList else none
  | _ => none

/-- Whether the quotes in a value can be counted, as they are where there is a choice of forms. -/
def isCountable : Datum → Bool
  | .text s => TextForm.hasCountableQuotes s.toList
  | _ => true

structure Section where
  path : List String
  pairs : List (String × Datum)

def printPair? (pair : String × Datum) : Option (List Char) :=
  (printValue? pair.2).map fun value => printKey pair.1 ++ [' ', '=', ' '] ++ value ++ ['\n']

def Section.print? (part : Section) : Option (List Char) := do
  let pairs ← part.pairs.mapM printPair?
  some ('[' :: ['.'].intercalate (part.path.map printKey) ++ [']', '\n'] ++ pairs.flatten)

def print? (sections : List Section) : Option String := do
  let parts ← sections.mapM Section.print?
  some (String.ofList (['\n'].intercalate parts))

def allCountable (sections : List Section) : Bool :=
  sections.all fun part => part.pairs.all fun pair => isCountable pair.2

end SessionPooling.Toml
