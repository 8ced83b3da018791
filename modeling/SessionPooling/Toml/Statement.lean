import SessionPooling.Toml.Value

/-! A document as a sequence of statements, one to an expression: the header of a table,
the header of an item of a list of tables, or a key with its value. A document is read by
reading its statements and then carrying them out from an empty table on. -/
namespace SessionPooling.Toml

inductive Statement where
  | header (path : Path)
  | itemHeader (path : Path)
  | pair (path : Path) (datum : Datum)

/-- A header, after its opening bracket or brackets. -/
def headerPath? (closing : List Char) (input : List Char) : Option (Path × List Char) := do
  let (path, rest) ← path? input
  if closing.isPrefixOf rest then
    let rest ← lineEnd? (rest.drop closing.length)
    some (path, rest)
  else none

/-- One line of a document, which may hold no statement. Only a value spans lines. -/
def line? (input : List Char) : Option (Option Statement × List Char) :=
  match skipBlanks input with
  | '[' :: '[' :: rest =>
    (headerPath? [']', ']'] rest).map fun (path, rest) => (some (.itemHeader path), rest)
  | '[' :: rest =>
    (headerPath? [']'] rest).map fun (path, rest) => (some (.header path), rest)
  | start =>
    match lineEnd? start with
    | some rest => some (none, rest)
    | none => do
      let (path, rest) ← path? start
      let rest ← expect? ['='] rest
      let (datum, rest) ← value? (depthLimit - 1) (skipBlanks rest)
      let rest ← lineEnd? rest
      some (some (.pair path datum), rest)

/-- The statements of a text. The count bounds the number of lines. -/
def statements? : Nat → List Char → Option (List Statement)
  | 0, input => if input.isEmpty then some [] else none
  | count + 1, input =>
    if input.isEmpty then some []
    else do
      let (found, rest) ← line? input
      let more ← statements? count rest
      some (found.toList ++ more)

/-- A document under construction and the table that keys go to. -/
structure Draft where
  root : Entries
  current : List String

namespace Draft

def empty : Draft := ⟨[], []⟩

def extend (draft : Draft) : Statement → Option Draft
  | .header path => (declare path draft.root).map fun root => ⟨root, path.toList⟩
  | .itemHeader path => (declareItem path draft.root).map fun root => ⟨root, path.toList⟩
  | .pair path datum =>
    (visit false (assign path datum) draft.current .declared draft.root).map fun root =>
      { draft with root }

end Draft

def document? (statements : List Statement) : Option Datum :=
  (statements.foldlM Draft.extend .empty).map fun draft => .table (entriesData draft.root)

def byteOrderMark : Char := '\ufeff'

def read? (text : String) : Option Datum :=
  let input :=
    match text.toList with
    | c :: rest => if c = byteOrderMark then rest else c :: rest
    | [] => []
  (statements? input.length input).bind document?

end SessionPooling.Toml
