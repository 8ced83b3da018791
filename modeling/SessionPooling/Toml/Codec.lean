import SessionPooling.Config.Codec
import SessionPooling.Toml.Print
import SessionPooling.Toml.Statement

/-! TOML as a codec: each table of a document becomes a section, which is followed by one section
for each table in it. -/
namespace SessionPooling.Toml

/-- Fields whose value is a table, which stand under a header of their own. -/
def isTable : Datum → Bool
  | .table _ => true
  | _ => false

/-- A table as a section, followed by one section for each table in it. -/
def sectionsOf (path : List String) (fields : List (String × Datum)) : List Section :=
  ⟨path, fields.filter fun f => !isTable f.2⟩ ::
    fields.filterMap fun f =>
      match f.2 with
      | .table inner => some ⟨path ++ [f.1], inner⟩
      | _ => none

def sections (document : Document) : List Section :=
  document.flatMap fun t => sectionsOf [t.1] t.2

/-- Documents as their format describes them. -/
def codec : Codec where
  write document := (print? (sections document)).elim .refused .text
  read? := read?

/-- The codec that files are kept with. Its writer chooses forms for strings by counts of quotes
that fit in a byte, and breaks off where there are more; this is a limit of the writer, and the
format knows of none. -/
def countingCodec : Codec where
  write document :=
    match codec.write document with
    | .text text => if allCountable (sections document) then .text text else .panic
    | ended => ended
  read? := codec.read?

end SessionPooling.Toml
