import SessionPooling.Proofs.Documents
import SessionPooling.Proofs.StatementRoundTrip
import SessionPooling.Toml.Codec

/-! A document of tables is read back from its text: each table under a header of its own with its
simple fields below, and the tables among its fields after these, under headers of their own. -/
namespace SessionPooling

namespace Toml
variable {key : String} {path : List String} {entries before : Entries} {put : Entries → Entries}

/-! ### Entries of tables -/

theorem setEntry_append (absent : key ∉ before.map Prod.fst) (node : Node) (after : Entries) :
    setEntry key node (before ++ after) = before ++ setEntry key node after := by
  induction before with
  | nil => rfl
  | cons e before ih =>
    rw [List.map_cons, List.mem_cons, not_or] at absent
    rw [List.cons_append, setEntry, if_neg (Ne.symm absent.1), ih absent.2]
    rfl

theorem setEntry_new (absent : key ∉ entries.map Prod.fst) (node : Node) :
    setEntry key node entries = entries ++ [(key, node)] := by
  have alone := setEntry_append absent node []
  rwa [List.append_nil] at alone

theorem visit_append (byDots : Bool) (act : Origin → Entries → Option Entries)
    (path more : List String) :
    ∀ (origin : Origin) (entries : Entries), visit byDots act (path ++ more) origin entries =
      visit byDots (visit byDots act more) path origin entries := by
  induction path with
  | nil => exact fun _ _ => rfl
  | cons key path ih =>
    intro origin entries
    rw [List.cons_append, visit, visit]
    simp only [ih]

/-- A place in a document: what is done at the end of the path is done to the table that stands
there. -/
def Place (path : List String) (put : Entries → Entries) : Prop :=
  ∀ act entries, visit false act path .declared (put entries) = (act .declared entries).map put

namespace Place

theorem root : Place [] id := fun _ _ => Option.map_id_apply.symm

theorem inside (place : Place path put) (absent : key ∉ before.map Prod.fst) :
    Place (path ++ [key]) fun entries => put (before ++ [(key, .table .declared entries)]) := by
  intro act entries
  have found : lookup? key (before ++ [(key, Node.table .declared entries)]) =
      some (.table .declared entries) := by
    rw [lookup?_append_of_not_mem absent, lookup?_cons, if_pos rfl]
  have reached : visit false act [key] .declared (before ++ [(key, .table .declared entries)]) =
      (act .declared entries).map fun inner => before ++ [(key, .table .declared inner)] := by
    rw [visit, found]
    cases done : act .declared entries with
    | none => simp [visit, done]
    | some inner => simp [visit, done, setEntry_append absent, setEntry]
  rw [visit_append, place, reached, Option.map_map]
  rfl

end Place

/-! ### Carrying out statements -/

def valuesOf (pairs : List (String × Datum)) : Entries := pairs.map fun p => (p.1, .value p.2)

theorem Place.extend_pair (place : Place path put) (absent : key ∉ entries.map Prod.fst)
    (d : Datum) :
    Draft.extend ⟨put entries, path⟩ (.pair ⟨key, []⟩ d) =
      some ⟨put (entries ++ [(key, .value d)]), path⟩ := by
  have assigned : assign ⟨key, []⟩ d .declared entries = some (entries ++ [(key, .value d)]) := by
    have none := lookup?_of_not_mem absent
    simp only [assign, Path.parents, Path.toList, Path.last, List.dropLast, visit,
      List.getLastD, none]
    exact congrArg some (setEntry_new absent _)
  rw [Draft.extend, place, assigned]
  rfl

/-- The keys with their values that follow a header go to its table. -/
theorem Place.extend_pairs (place : Place path put) (pairs : List (String × Datum)) :
    ∀ entries : Entries, (entries.map Prod.fst ++ pairs.map Prod.fst).Nodup →
      (pairs.map pairStatement).foldlM Draft.extend ⟨put entries, path⟩ =
        some ⟨put (entries ++ valuesOf pairs), path⟩ := by
  induction pairs with
  | nil =>
    intro entries _
    rw [valuesOf, List.map_nil, List.map_nil, List.append_nil]
    rfl
  | cons pair pairs ih =>
    intro entries apart
    have first := place.extend_pair (not_mem_of_apart apart) pair.2
    have rest := ih (entries ++ [(pair.1, .value pair.2)]) (by simpa using apart)
    rw [List.append_assoc] at rest
    simp only [List.map_cons, pairStatement, List.foldlM_cons, first, bind, Option.bind]
    exact rest

theorem Place.extend_header (path : Path) (place : Place path.parents put)
    (absent : path.last ∉ entries.map Prod.fst) (current : List String) :
    Draft.extend ⟨put entries, current⟩ (.header path) =
      some ⟨put (entries ++ [(path.last, .table .declared [])]), path.toList⟩ := by
  have declared : declare path (put entries) =
      some (put (entries ++ [(path.last, .table .declared [])])) := by
    rw [declare, place, lookup?_of_not_mem absent]
    exact congrArg (fun made => some (put made)) (setEntry_new absent _)
  rw [Draft.extend, declared]
  rfl

/-! ### Tables -/

/-- The tables among some fields, each with its name. -/
def tablesIn (fields : List (String × Datum)) : List (String × List (String × Datum)) :=
  fields.filterMap fun f =>
    match f.2 with
    | .table inner => some (f.1, inner)
    | _ => none

def isSimple (f : String × Datum) : Bool := !isTable f.2

/-- The table that a header and its pairs make. -/
def tableOf (t : String × List (String × Datum)) : String × Node :=
  (t.1, .table .declared (valuesOf t.2))

theorem sectionsOf_eq (path : List String) (fields : List (String × Datum)) :
    sectionsOf path fields =
      ⟨path, fields.filter isSimple⟩ ::
        (tablesIn fields).map fun t => ⟨path ++ [t.1], t.2⟩ := by
  rw [sectionsOf, tablesIn, List.map_filterMap]
  congr 2
  funext f
  cases f.2 <;> rfl

/-- The tables in a table follow it, one after another. -/
theorem extend_inner {name : String} (place : Place [name] put)
    (tables : List (String × List (String × Datum)))
    (nested : ∀ t ∈ tables, (t.2.map Prod.fst).Nodup) :
    ∀ (entries : Entries) (current : List String),
      (entries.map Prod.fst ++ tables.map Prod.fst).Nodup →
      ∃ last, ((tables.map fun t => (⟨[name] ++ [t.1], t.2⟩ : Section)).flatMap
          Section.statements).foldlM Draft.extend ⟨put entries, current⟩ =
        some ⟨put (entries ++ tables.map tableOf), last⟩ := by
  induction tables with
  | nil =>
    intro entries current _
    rw [List.map_nil, List.map_nil, List.append_nil]
    exact ⟨current, rfl⟩
  | cons t tables ih =>
    intro entries current apart
    obtain ⟨distinct, nested⟩ := List.forall_mem_cons.1 nested
    have absent := not_mem_of_apart apart
    have header : Draft.extend ⟨put entries, current⟩ (.header ⟨name, [t.1]⟩) =
        some ⟨put (entries ++ [(t.1, .table .declared [])]), [name, t.1]⟩ :=
      Place.extend_header ⟨name, [t.1]⟩ place absent current
    have pairs : (t.2.map pairStatement).foldlM Draft.extend
        ⟨put (entries ++ [(t.1, .table .declared [])]), [name, t.1]⟩ =
          some ⟨put (entries ++ [tableOf t]), [name, t.1]⟩ :=
      (place.inside absent).extend_pairs t.2 [] (by simpa using distinct)
    obtain ⟨last, rest⟩ := ih nested (entries ++ [tableOf t]) [name, t.1]
      (by simpa [tableOf] using apart)
    refine ⟨last, ?_⟩
    rw [List.append_assoc] at rest
    simp only [List.map_cons, List.flatMap_cons, Section.statements, List.cons_append,
      List.nil_append, List.foldlM_cons, List.foldlM_append, header, pairs, bind, Option.bind]
    exact rest

/-- The simple fields of a table, and then the tables among its fields. -/
def arranged (fields : List (String × Datum)) : List (String × Datum) :=
  fields.filter isSimple ++ fields.filter fun f => isTable f.2

def entriesOf (fields : List (String × Datum)) : Entries :=
  valuesOf (fields.filter isSimple) ++ (tablesIn fields).map tableOf

theorem map_tablesIn (fields : List (String × Datum)) :
    (tablesIn fields).map (fun t => (t.1, Datum.table t.2)) =
      fields.filter fun f => isTable f.2 := by
  induction fields with
  | nil => rfl
  | cons f fields ih =>
    obtain ⟨key, d⟩ := f
    unfold tablesIn at ih ⊢
    cases d with
    | table inner =>
      rw [List.filter_cons_of_pos rfl, ← ih]
      rfl
    | _ =>
      rw [List.filter_cons_of_neg Bool.false_ne_true, ← ih]
      rfl

theorem keys_tablesIn (fields : List (String × Datum)) :
    (tablesIn fields).map Prod.fst =
      (fields.filter fun f => isTable f.2).map Prod.fst := by
  rw [← map_tablesIn, List.map_map]
  rfl

theorem arranged_perm (fields : List (String × Datum)) : (arranged fields).Perm fields := by
  have split := List.filter_append_perm (fun f : String × Datum => isTable f.2) fields
  exact List.perm_append_comm.trans split

theorem nodup_arranged {fields : List (String × Datum)} (apart : (fields.map Prod.fst).Nodup) :
    ((arranged fields).map Prod.fst).Nodup :=
  ((arranged_perm fields).map Prod.fst).nodup_iff.2 apart

theorem mem_tablesIn {fields : List (String × Datum)} {t : String × List (String × Datum)} :
    t ∈ tablesIn fields ↔ (t.1, .table t.2) ∈ fields := by
  rw [tablesIn, List.mem_filterMap]
  constructor
  · rintro ⟨⟨key, d⟩, member, found⟩
    cases d with
    | table inner =>
      obtain rfl := Option.some.inj found
      exact member
    | _ => cases found
  · exact fun member => ⟨_, member, rfl⟩

theorem extend_table {name : String} {fields : List (String × Datum)} (distinct : Datum.Distinct fields)
    {before : Entries} (absent : name ∉ before.map Prod.fst) (current : List String) :
    ∃ last, ((sectionsOf [name] fields).flatMap Section.statements).foldlM Draft.extend
        ⟨before, current⟩ =
      some ⟨before ++ [(name, .table .declared (entriesOf fields))], last⟩ := by
  have header : Draft.extend ⟨before, current⟩ (.header ⟨name, []⟩) =
      some ⟨before ++ [(name, .table .declared [])], [name]⟩ :=
    Place.extend_header ⟨name, []⟩ .root absent current
  have apart := nodup_arranged distinct.names
  rw [arranged, List.map_append] at apart
  obtain ⟨simple, -, -⟩ := List.nodup_append.1 apart
  have place := Place.root.inside absent
  have pairs : ((fields.filter isSimple).map pairStatement).foldlM Draft.extend
      ⟨before ++ [(name, .table .declared [])], [name]⟩ =
        some ⟨before ++ [(name, .table .declared (valuesOf (fields.filter isSimple)))], [name]⟩ :=
    place.extend_pairs _ [] (by simpa using simple)
  have keys : (valuesOf (fields.filter isSimple)).map Prod.fst =
      (fields.filter isSimple).map Prod.fst := by
    rw [valuesOf, List.map_map]
    rfl
  have nested : ∀ t ∈ tablesIn fields, (t.2.map Prod.fst).Nodup := fun t member =>
    distinct.inner t.1 t.2 (mem_tablesIn.1 member)
  obtain ⟨last, rest⟩ := extend_inner place (tablesIn fields) nested
    (valuesOf (fields.filter isSimple)) [name] (by rw [keys, keys_tablesIn]; exact apart)
  refine ⟨last, ?_⟩
  rw [sectionsOf_eq, List.flatMap_cons, List.foldlM_append]
  simp only [Section.statements, List.foldlM_cons, header, pairs, bind, Option.bind]
  exact rest

/-- The tables of a document, one after another. -/
theorem extend_document (document : Document) (distinct : ∀ t ∈ document, Datum.Distinct t.2) :
    ∀ (before : Entries) (current : List String),
      (before.map Prod.fst ++ document.map Prod.fst).Nodup →
      ∃ last, ((sections document).flatMap Section.statements).foldlM Draft.extend
          ⟨before, current⟩ =
        some ⟨before ++ document.map fun t => (t.1, .table .declared (entriesOf t.2)), last⟩ := by
  induction document with
  | nil =>
    intro before current _
    rw [List.map_nil, List.append_nil]
    exact ⟨current, rfl⟩
  | cons t document ih =>
    intro before current apart
    obtain ⟨first, distinct⟩ := List.forall_mem_cons.1 distinct
    obtain ⟨current, made⟩ := extend_table first (not_mem_of_apart apart) current
    obtain ⟨last, rest⟩ := ih distinct (before ++ [(t.1, .table .declared (entriesOf t.2))]) current
      (by simpa using apart)
    refine ⟨last, ?_⟩
    rw [List.append_assoc] at rest
    rw [sections, List.flatMap_cons, List.flatMap_append, List.foldlM_append, made]
    exact rest

/-! ### Documents -/

theorem entriesData_append (entries more : Entries) :
    entriesData (entries ++ more) = entriesData entries ++ entriesData more := by
  induction entries with
  | nil => rfl
  | cons e entries ih => rw [List.cons_append, entriesData, ih, entriesData, List.cons_append]

theorem entriesData_valuesOf (pairs : List (String × Datum)) :
    entriesData (valuesOf pairs) = pairs := by
  unfold valuesOf
  induction pairs with
  | nil => rfl
  | cons p pairs ih => rw [List.map_cons, entriesData, ih, Node.toDatum]

theorem entriesData_tables {α : Type} (inner : α → Entries) (tables : List (String × α)) :
    entriesData (tables.map fun t => (t.1, .table .declared (inner t.2))) =
      tables.map fun t => (t.1, .table (entriesData (inner t.2))) := by
  induction tables with
  | nil => rfl
  | cons t tables ih => rw [List.map_cons, entriesData, ih, Node.toDatum, List.map_cons]

theorem entriesData_entriesOf (fields : List (String × Datum)) :
    entriesData (entriesOf fields) = arranged fields := by
  have tables := entriesData_tables valuesOf (tablesIn fields)
  simp only [entriesData_valuesOf, map_tablesIn] at tables
  rw [entriesOf, entriesData_append, entriesData_valuesOf, arranged]
  exact congrArg _ tables

/-- A document is read back from its text, with the tables behind the other fields. -/
theorem read?_sections {document : Document} (distinct : document.Distinct) {text : String}
    (written : print? (sections document) = some text) :
    read? text = some (.table (document.map fun t => (t.1, .table (arranged t.2)))) := by
  have headers : ∀ part ∈ sections document, part.HasHeader := by
    intro part member
    obtain ⟨t, -, member⟩ := List.mem_flatMap.1 member
    rw [sectionsOf_eq] at member
    obtain rfl | member := List.mem_cons.1 member
    · exact ⟨List.cons_ne_nil _ _, (by decide : 1 < depthLimit)⟩
    · obtain ⟨inner, -, rfl⟩ := List.mem_map.1 member
      exact ⟨List.cons_ne_nil _ _, (by decide : 2 < depthLimit)⟩
  obtain ⟨last, made⟩ :=
    extend_document document distinct.tables [] [] (by simpa using distinct.names)
  have data := entriesData_tables entriesOf document
  simp only [entriesData_entriesOf] at data
  rw [read?_print written headers, document?, Draft.empty, made, Option.map_some, List.nil_append,
    data]

/-- In another order, fields are found as they were. -/
theorem alike_arranged {fields : List (String × Datum)} (distinct : Datum.Distinct fields) :
    (Datum.table fields).Alike (.table (arranged fields)) := by
  have perm := arranged_perm fields
  apply Datum.Alike.table (perm.map Prod.fst)
  intro name d e inFields inFound
  rw [lookup?_eq_of_mem_iff (nodup_arranged distinct.names) distinct.names fun f => perm.mem_iff,
    inFields] at inFound
  obtain rfl := Option.some.inj inFound
  exact .same d

end Toml
end SessionPooling
