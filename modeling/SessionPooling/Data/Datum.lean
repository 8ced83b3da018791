/-! Values of a data format: what a configuration file or a message says before it is read
as settings or as a write. A number is either an integer, kept exactly, or a spelling with
a fraction or an exponent, which no field of the library accepts. -/
namespace SessionPooling

inductive Datum where
  | null
  | bool (value : Bool)
  | integer (value : Int)
  | float (spelling : String)
  | text (value : String)
  | list (items : List Datum)
  | table (fields : List (String × Datum))
deriving Inhabited

namespace Datum

/-- What separates the formats from each other. -/
structure Dialect where
  /-- A choice may be spelled as a table with one field. This says what that field may
  hold, since the choice itself says everything. -/
  carriesNothing : Datum → Bool
  /-- Whether a record written as a list may be followed by further items. -/
  longLists : Bool

/-- Messages write `null` for nothing, and a list that is too long is an error. -/
def messages : Dialect where
  carriesNothing
    | .null => true
    | _ => false
  longLists := false

/-- Configuration files have no `null`, and write an empty list or table for nothing. -/
def files : Dialect where
  carriesNothing
    | .list items => items.isEmpty
    | .table fields => fields.isEmpty
    | _ => false
  longLists := true

end Datum
end SessionPooling
