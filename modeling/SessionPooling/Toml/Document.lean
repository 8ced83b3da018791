import SessionPooling.Data.Datum
import SessionPooling.Labels
import SessionPooling.Toml.Key

/-! Documents under construction: tables nested by the headers and the keys read so far.
A table remembers how it came about, because a table may be given a header only once, a
table that a header named may not be extended by dotted keys, and nothing is set twice. -/
namespace SessionPooling.Toml

inductive Origin where
  /-- On the way to a table that a header names. -/
  | implied
  /-- On the way to a dotted key. -/
  | dotted
  /-- By a header of its own, or as a whole value. -/
  | declared
deriving DecidableEq

inductive Node where
  | value (datum : Datum)
  | table (origin : Origin) (entries : List (String × Node))
  /-- A list of tables, each named by a doubled header. -/
  | tables (items : List (List (String × Node)))

abbrev Entries := List (String × Node)

def setEntry (key : String) (node : Node) : Entries → Entries
  | [] => [(key, node)]
  | (k, n) :: rest => if k = key then (key, node) :: rest else (k, n) :: setEntry key node rest

/-- Changes the table at the end of a path, making the tables on the way. A path leads into
the last of a list of tables. -/
def visit (byDots : Bool) (act : Origin → Entries → Option Entries) :
    List String → Origin → Entries → Option Entries
  | [], origin, entries => act origin entries
  | key :: path, _, entries =>
    match lookup? key entries with
    | none => do
      let origin := if byDots then .dotted else .implied
      let inner ← visit byDots act path origin []
      some (setEntry key (.table origin inner) entries)
    | some (.value _) => none
    | some (.tables items) =>
      match items.getLast? with
      | none => none
      | some last => do
        let inner ← visit byDots act path .declared last
        some (setEntry key (.tables (items.dropLast ++ [inner])) entries)
    | some (.table origin inner) =>
      if byDots && origin == .declared then none
      else do
        let inner ← visit byDots act path origin inner
        some (setEntry key (.table origin inner) entries)

/-- Sets a new key of a table. A path of several keys must end in a table made by dots. -/
def assign (path : Path) (datum : Datum) (origin : Origin) (entries : Entries) :
    Option Entries :=
  visit true (fun reached entries =>
    if (reached == .dotted) == path.more.isEmpty then none
    else if (lookup? path.last entries).isSome then none
    else some (setEntry path.last (.value datum) entries)) path.parents origin entries

def declare (path : Path) (root : Entries) : Option Entries :=
  visit false (fun _ entries =>
    match lookup? path.last entries with
    | none => some (setEntry path.last (.table .declared []) entries)
    | some (.table .implied inner) => some (setEntry path.last (.table .declared inner) entries)
    | some _ => none) path.parents .declared root

def declareItem (path : Path) (root : Entries) : Option Entries :=
  visit false (fun _ entries =>
    match lookup? path.last entries with
    | none => some (setEntry path.last (.tables [[]]) entries)
    | some (.tables items) => some (setEntry path.last (.tables (items ++ [[]])) entries)
    | some _ => none) path.parents .declared root

mutual

def Node.toDatum : Node → Datum
  | .value datum => datum
  | .table _ entries => .table (entriesData entries)
  | .tables items => .list (itemsData items)

def entriesData : List (String × Node) → List (String × Datum)
  | [] => []
  | (key, node) :: rest => (key, node.toDatum) :: entriesData rest

def itemsData : List (List (String × Node)) → List Datum
  | [] => []
  | entries :: rest => .table (entriesData entries) :: itemsData rest

end

end SessionPooling.Toml
