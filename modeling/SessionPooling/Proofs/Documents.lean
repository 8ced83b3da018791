import SessionPooling.Config.Codec
import SessionPooling.Labels

/-! What documents say. The fields of a table are told apart by their names, and their order does
not count. A codec is faithful if it writes what documents say, as far as its numbers reach, and
reads it again. -/
namespace SessionPooling

section
variable {κ ν : Type} [DecidableEq κ] {key : κ} {value : ν} {entries before : List (κ × ν)}

theorem lookup?_append_of_not_mem (absent : key ∉ before.map Prod.fst) (after : List (κ × ν)) :
    lookup? key (before ++ after) = lookup? key after := by
  induction before with
  | nil => rfl
  | cons e before ih =>
    rw [List.map_cons, List.mem_cons, not_or] at absent
    rw [List.cons_append, lookup?_cons, if_neg (Ne.symm absent.1), ih absent.2]

theorem lookup?_of_not_mem (absent : key ∉ entries.map Prod.fst) : lookup? key entries = none := by
  have alone := lookup?_append_of_not_mem absent []
  rwa [List.append_nil] at alone

theorem not_mem_of_apart {α : Type} {keys others : List α} {key : α}
    (apart : (keys ++ key :: others).Nodup) : key ∉ keys := by
  obtain ⟨-, -, unlike⟩ := List.nodup_append.1 apart
  exact fun member => unlike key member key List.mem_cons_self rfl

theorem lookup?_of_mem (keys : (entries.map Prod.fst).Nodup) (member : (key, value) ∈ entries) :
    lookup? key entries = some value := by
  obtain ⟨before, after, rfl⟩ := List.append_of_mem member
  rw [List.map_append] at keys
  rw [lookup?_append_of_not_mem (not_mem_of_apart keys), lookup?_cons, if_pos rfl]

theorem lookup?_eq_none_iff : lookup? key entries = none ↔ key ∉ entries.map Prod.fst := by
  refine ⟨fun none member => ?_, lookup?_of_not_mem⟩
  induction entries with
  | nil => cases member
  | cons e entries ih =>
    rw [lookup?_cons] at none
    split at none
    · cases none
    next other =>
      obtain same | member := List.mem_cons.1 member
      · exact other same.symm
      · exact ih none member

theorem lookup?_map {μ : Type} (change : ν → μ) (key : κ) (entries : List (κ × ν)) :
    lookup? key (entries.map fun e => (e.1, change e.2)) = (lookup? key entries).map change := by
  induction entries with
  | nil => rfl
  | cons e entries ih =>
    rw [List.map_cons, lookup?_cons, lookup?_cons, ih]
    split <;> rfl

/-- Where no key stands twice, entries may be put in another order. -/
theorem lookup?_eq_of_mem_iff {others : List (κ × ν)} (keys : (entries.map Prod.fst).Nodup)
    (otherKeys : (others.map Prod.fst).Nodup) (same : ∀ e, e ∈ entries ↔ e ∈ others) (key : κ) :
    lookup? key entries = lookup? key others := by
  apply Option.ext
  intro value
  constructor
  · exact fun found => lookup?_of_mem otherKeys ((same _).1 (mem_of_lookup? found))
  · exact fun found => lookup?_of_mem keys ((same _).2 (mem_of_lookup? found))

end

namespace Datum

/-- A table whose names can be told apart, as can those of each table in it. -/
structure Distinct (fields : List (String × Datum)) : Prop where
  names : (fields.map Prod.fst).Nodup
  inner : ∀ name inner, (name, table inner) ∈ fields → (inner.map Prod.fst).Nodup

/-- What a field holds: itself, or for a table what is under its names. -/
def leaves : Datum → List Datum
  | table fields => fields.map Prod.snd
  | d => [d]

def IsScalar : Datum → Prop
  | text _ => True
  | bool _ => True
  | integer _ => True
  | _ => False

/-- A number that sixty-four bits with a sign cannot hold. -/
def IsVast : Datum → Prop
  | integer n => n < -9223372036854775808 ∨ 9223372036854775807 < n
  | _ => False

/-- Data that say the same: tables have the same names, in whatever order, and data that say the
same under each. -/
inductive Alike : Datum → Datum → Prop where
  | same (d : Datum) : Alike d d
  | table {fields found : List (String × Datum)}
      (names : (found.map Prod.fst).Perm (fields.map Prod.fst))
      (entries : ∀ name d e, lookup? name fields = some d → lookup? name found = some e →
        Alike d e) : Alike (table fields) (table found)

namespace Alike
variable {d e : Datum} {fields : List (String × Datum)}

theorem eq_of_isScalar (alike : Alike d e) (scalar : d.IsScalar) : e = d := by
  cases alike with
  | same => rfl
  | table => exact scalar.elim

/-- A table is found as a table, with what was under its names. -/
theorem fields_found (alike : Alike (.table fields) d) :
    ∃ found, d = .table found ∧ (found.map Prod.fst).Perm (fields.map Prod.fst) ∧
      ∀ name, Option.Rel Alike (lookup? name fields) (lookup? name found) := by
  cases alike with
  | same =>
    refine ⟨fields, rfl, .refl _, fun name => ?_⟩
    cases lookup? name fields with
    | none => exact .none
    | some d => exact .some (.same d)
  | @table _ found names entries =>
    refine ⟨found, rfl, names, fun name => ?_⟩
    have both : lookup? name fields = none ↔ lookup? name found = none := by
      rw [lookup?_eq_none_iff, lookup?_eq_none_iff, names.mem_iff]
    cases inFields : lookup? name fields with
    | none =>
      rw [both.1 inFields]
      exact .none
    | some d =>
      cases inFound : lookup? name found with
      | none =>
        rw [both.2 inFound] at inFields
        cases inFields
      | some e => exact .some (entries name d e inFields inFound)

end Alike
end Datum

namespace Document

def toDatum (document : Document) : Datum := .table (document.map fun t => (t.1, .table t.2))

structure Distinct (document : Document) : Prop where
  names : (document.map Prod.fst).Nodup
  tables : ∀ t ∈ document, Datum.Distinct t.2

/-- All that is under the names of a document and is no table. -/
def values (document : Document) : List Datum :=
  document.flatMap fun t => t.2.flatMap fun f => f.2.leaves

end Document

namespace Codec

/-- A text that is read as what a document says. -/
def Conveys (codec : Codec) (text : String) (document : Document) : Prop :=
  ∃ d, codec.read? text = some d ∧ document.toDatum.Alike d

/-- Documents of strings, booleans and numbers are written, and read as what they say. Only numbers
that are out of range are refused. -/
structure Faithful (codec : Codec) : Prop where
  writes : ∀ document : Document, document.Distinct →
    (∀ d ∈ document.values, d.IsScalar ∧ ¬ d.IsVast) →
    ∃ text, codec.write document = .text text ∧ codec.Conveys text document
  refuses : ∀ document : Document, document.Distinct → (∀ d ∈ document.values, d.IsScalar) →
    (∃ d ∈ document.values, d.IsVast) → codec.write document = .refused

end Codec
end SessionPooling
