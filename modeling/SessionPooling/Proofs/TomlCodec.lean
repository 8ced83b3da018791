import SessionPooling.Proofs.LeavingOut

/-! The TOML codec is faithful. The codec that files are kept with writes the same texts where it
can count the quotes. -/
namespace SessionPooling.Toml

theorem mem_leaves {fields : List (String × Datum)} {d : Datum} :
    (∃ f ∈ fields, d ∈ f.2.leaves) ↔
      (∃ f ∈ fields, isSimple f ∧ f.2 = d) ∨ ∃ t ∈ tablesIn fields, d ∈ t.2.map Prod.snd := by
  constructor
  · rintro ⟨⟨name, held⟩, member, inside⟩
    cases held with
    | table inner => exact .inr ⟨(name, inner), mem_tablesIn.2 member, inside⟩
    | _ => exact .inl ⟨_, member, rfl, (List.mem_singleton.1 inside).symm⟩
  · rintro (⟨⟨name, held⟩, member, simple, rfl⟩ | ⟨t, member, inside⟩)
    · refine ⟨_, member, ?_⟩
      cases held with
      | table inner => cases simple
      | _ => exact List.mem_singleton.2 rfl
    · exact ⟨_, mem_tablesIn.1 member, inside⟩

/-- What the sections of a document hold. -/
theorem mem_values_sections {document : Document} {d : Datum} :
    d ∈ values (sections document) ↔ d ∈ document.values := by
  have ofTable (t : String × List (String × Datum)) :
      d ∈ values (sectionsOf [t.1] t.2) ↔ ∃ f ∈ t.2, d ∈ f.2.leaves := by
    rw [values_sectionsOf, mem_leaves]
    simp only [List.mem_append, List.mem_map, List.mem_filter, List.mem_flatMap, and_assoc]
  have parts : d ∈ values (sections document) ↔
      ∃ t ∈ document, d ∈ values (sectionsOf [t.1] t.2) := by
    simp only [values, sections, List.flatMap_assoc, List.mem_flatMap]
  simp only [parts, ofTable, Document.values, List.mem_flatMap]

theorem printValue?_eq_none_iff {d : Datum} (scalar : d.IsScalar) :
    printValue? d = none ↔ d.IsVast := by
  cases d with
  | integer n =>
    simp only [printValue?, inRange, Datum.IsVast, decide_eq_true_eq, ite_eq_right_iff,
      reduceCtorEq, imp_false]
    omega
  | text s => simp only [printValue?, Datum.IsVast, reduceCtorEq]
  | bool b => simp only [printValue?, Datum.IsVast, reduceCtorEq]
  | _ => exact scalar.elim

/-- A document of strings, booleans and numbers has no text just if a number is out of range. -/
theorem print?_sections_eq_none_iff {document : Document}
    (scalars : ∀ d ∈ document.values, d.IsScalar) :
    print? (sections document) = none ↔ ∃ d ∈ document.values, d.IsVast := by
  rw [print?_eq_none_iff]
  constructor
  · rintro ⟨d, inside, unwritten⟩
    have member := mem_values_sections.1 inside
    exact ⟨d, member, (printValue?_eq_none_iff (scalars d member)).1 unwritten⟩
  · rintro ⟨d, member, vast⟩
    exact ⟨d, mem_values_sections.2 member, (printValue?_eq_none_iff (scalars d member)).2 vast⟩

theorem write_eq_text_iff {document : Document} {text : String} :
    codec.write document = .text text ↔ print? (sections document) = some text := by
  show Option.elim _ Written.refused Written.text = Written.text text ↔ _
  cases print? (sections document) with
  | none => exact ⟨nofun, nofun⟩
  | some made => simp only [Option.elim, Written.text.injEq, Option.some.injEq]

theorem conveys_of_print? {document : Document} (distinct : document.Distinct) {text : String}
    (written : print? (sections document) = some text) : codec.Conveys text document := by
  refine ⟨_, read?_sections distinct written, ?_⟩
  apply Datum.Alike.table
  · rw [List.map_map, List.map_map]
    exact .refl _
  · intro name d e inDocument inFound
    rw [lookup?_map (fun fields => Datum.table fields)] at inDocument
    rw [lookup?_map (fun fields => Datum.table (arranged fields))] at inFound
    obtain ⟨fields, found, rfl⟩ := Option.map_eq_some_iff.1 inDocument
    rw [found] at inFound
    obtain rfl := Option.some.inj inFound
    exact alike_arranged (distinct.tables _ (mem_of_lookup? found))

theorem codec_faithful : codec.Faithful where
  writes document distinct holds := by
    cases written : print? (sections document) with
    | none =>
      have scalars := fun d member => (holds d member).1
      obtain ⟨d, member, vast⟩ := (print?_sections_eq_none_iff scalars).1 written
      exact absurd vast (holds d member).2
    | some text =>
      exact ⟨text, write_eq_text_iff.2 written, conveys_of_print? distinct written⟩
  refuses document _ scalars vast := by
    have unwritten := (print?_sections_eq_none_iff scalars).2 vast
    simp only [codec, unwritten, Option.elim]

/-- Where all quotes can be counted, their count makes no difference. -/
theorem countingCodec_write {document : Document}
    (countable : ∀ d ∈ document.values, isCountable d) :
    countingCodec.write document = codec.write document := by
  have all : allCountable (sections document) := by
    rw [allCountable_iff]
    exact fun d member => countable d (mem_values_sections.1 member)
  unfold countingCodec
  cases written : codec.write document with
  | text text => simp only [written, all, if_true]
  | _ => simp only [written]

end SessionPooling.Toml
