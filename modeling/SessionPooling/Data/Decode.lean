import SessionPooling.Data.Datum
import SessionPooling.Labels

/-! Reading values as typed data. A record is a table of named fields, where unknown fields
are passed over, or a list of its fields in order, which may be short. A field that is
absent takes its default, or fails the record if it has none. -/
namespace SessionPooling.Datum

def toText? : Datum → Option String
  | .text s => some s
  | _ => none

def toBool? : Datum → Option Bool
  | .bool b => some b
  | _ => none

/-- An integer from zero to `largest`. -/
def toNat? (largest : Nat) : Datum → Option Nat
  | .integer n => if 0 ≤ n ∧ n ≤ largest then some n.toNat else none
  | _ => none

def toOption? (inner : Datum → Option α) : Datum → Option (Option α)
  | .null => some none
  | d => (inner d).map some

def toList? (inner : Datum → Option α) : Datum → Option (List α)
  | .list items => items.mapM inner
  | _ => none

def toLabels? : Datum → Option Labels
  | .table fields => do
    let pairs ← fields.mapM fun f => f.2.toText?.map fun value => (f.1, value)
    some (.ofList pairs)
  | _ => none

/-- One of the named choices, as its name or as a table with that one field. -/
def toChoice? (dialect : Dialect) (named : String → Option α) : Datum → Option α
  | .text s => named s
  | .table [(s, content)] => if dialect.carriesNothing content then named s else none
  | _ => none

structure Fields where
  present : List (String × Datum)

def toFields? (dialect : Dialect) (names : List String) : Datum → Option Fields
  | .table fields => some ⟨fields⟩
  | .list items =>
    if items.length ≤ names.length ∨ dialect.longLists then some ⟨names.zip items⟩ else none
  | _ => none

namespace Fields

def required (fields : Fields) (name : String) (read : Datum → Option α) : Option α :=
  (lookup? name fields.present).bind read

def optional (fields : Fields) (name : String) (standard : α) (read : Datum → Option α) :
    Option α :=
  match lookup? name fields.present with
  | none => some standard
  | some d => read d

end Fields
end SessionPooling.Datum
