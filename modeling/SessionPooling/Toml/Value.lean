import SessionPooling.Toml.Document
import SessionPooling.Toml.Moment

/-! Values of TOML documents. Lists may span lines, tables in braces may not. Lists and
tables nest below a fixed depth, on which the reader recurses. -/
namespace SessionPooling.Toml

def isTokenChar (c : Char) : Bool :=
  c.isAlphanum || c == '_' || c == '+' || c == '-' || c == '.'

/-- The key under which a date or time stands in the table that represents it. -/
def momentKey : String := "$__toml_private_datetime"

def tokenValue? (token : List Char) : Option Datum :=
  if token = ['t', 'r', 'u', 'e'] then some (.bool true)
  else if token = ['f', 'a', 'l', 's', 'e'] then some (.bool false)
  else
    match integer? token with
    | some n => some (.integer n)
    | none => if isFloat token then some (.float (String.ofList token)) else none

/-- A value that holds no other. -/
def scalarValue? (input : List Char) : Option (Datum × List Char) :=
  match text? input with
  | some (s, rest) => some (.text s, rest)
  | none =>
    match moment? input with
    | some (moment, rest) =>
      some (.table [(momentKey, .text (String.ofList moment))], rest)
    | none =>
      let token := input.takeWhile isTokenChar
      (tokenValue? token).map fun d => (d, input.drop token.length)

/-- The items of a list, after its bracket or a comma; `inner` reads one item. The count
bounds the number of items. -/
def listItems? (inner : List Char → Option (Datum × List Char)) :
    Nat → List Char → Option (List Datum × List Char)
  | 0, _ => none
  | count + 1, input =>
    match skipLines input.length input with
    | ']' :: rest => some ([], rest)
    | input => do
      let (item, rest) ← inner input
      match skipLines rest.length rest with
      | ',' :: rest => do
        let (items, rest) ← listItems? inner count rest
        some (item :: items, rest)
      | ']' :: rest => some ([item], rest)
      | _ => none

/-- The pairs of a table in braces, after its brace or a comma; `inner` reads one value. -/
def braceEntries? (inner : List Char → Option (Datum × List Char)) :
    Nat → Entries → List Char → Option (Entries × List Char)
  | 0, _, _ => none
  | count + 1, entries, input => do
    let (path, rest) ← path? input
    let rest ← expect? ['='] rest
    let (datum, rest) ← inner (skipBlanks rest)
    let entries ← assign path datum .declared entries
    match skipBlanks rest with
    | ',' :: rest => braceEntries? inner count entries rest
    | '}' :: rest => some (entries, rest)
    | _ => none

def braceTable? (inner : List Char → Option (Datum × List Char)) (input : List Char) :
    Option (Datum × List Char) :=
  match skipBlanks input with
  | '}' :: rest => some (.table [], rest)
  | input =>
    (braceEntries? inner input.length [] input).map fun (entries, rest) =>
      (.table (entriesData entries), rest)

/-- A value that nests at most `depth` lists and tables. -/
def value? : Nat → List Char → Option (Datum × List Char)
  | 0, input => scalarValue? input
  | depth + 1, input =>
    match input with
    | '[' :: rest =>
      (listItems? (value? depth) (rest.length + 1) rest).map fun (items, rest) =>
        (.list items, rest)
    | '{' :: rest => braceTable? (value? depth) rest
    | _ => scalarValue? input

end SessionPooling.Toml
