import SessionPooling.Toml.Text

/-! Keys of TOML documents: bare words or quoted strings on one line, joined by points
into paths. -/
namespace SessionPooling.Toml

def isBareKey (c : Char) : Bool := c.isAlphanum || c == '_' || c == '-'

def simpleKey? : List Char → Option (String × List Char)
  | '"' :: rest => asText (basicText.run .plain rest)
  | '\'' :: rest => asText (literalText.run .plain rest)
  | input =>
    let word := input.takeWhile isBareKey
    if word.isEmpty then none else some (String.ofList word, input.drop word.length)

/-- Paths must be shorter than this, and values nest less deep. The format itself has no such
limit. -/
def depthLimit : Nat := 80

/-- The keys after the first one, each behind a point. The count bounds their number. -/
def keysAfterPoint? : Nat → List Char → Option (List String × List Char)
  | 0, _ => none
  | count + 1, input =>
    match skipBlanks input with
    | '.' :: rest => do
      let (key, rest) ← simpleKey? (skipBlanks rest)
      let (keys, rest) ← keysAfterPoint? count rest
      some (key :: keys, rest)
    | rest => some ([], rest)

/-- A path of keys, with the blanks on both sides of it. -/
structure Path where
  first : String
  more : List String
deriving DecidableEq

namespace Path

def toList (path : Path) : List String := path.first :: path.more

def parents (path : Path) : List String := path.toList.dropLast

def last (path : Path) : String := path.more.getLastD path.first

end Path

def path? (input : List Char) : Option (Path × List Char) := do
  let (first, rest) ← simpleKey? (skipBlanks input)
  let (more, rest) ← keysAfterPoint? (depthLimit - 1) rest
  some (⟨first, more⟩, rest)

end SessionPooling.Toml
