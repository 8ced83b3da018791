import Mathlib.Data.List.Forall2
import SessionPooling.Proofs.DocumentRoundTrip

/-! The values that a document is written from, and what is left of its text when sections or pairs
are left out. -/
namespace SessionPooling.Toml

open List (SublistForall₂)

/-! ### Values -/

theorem mapM_eq_none_iff {α β : Type} {f : α → Option β} {l : List α} :
    l.mapM f = none ↔ ∃ a ∈ l, f a = none := by
  induction l with
  | nil => simp
  | cons a l ih =>
    rw [List.mapM_cons]
    cases first : f a with
    | none => simp [first]
    | some b =>
      cases rest : l.mapM f with
      | none => simpa [first, rest] using ih.1 rest
      | some bs =>
        have all := mt ih.2 (by simp [rest])
        simpa [first, rest] using all

/-- The values in some sections. -/
def values (sections : List Section) : List Datum :=
  sections.flatMap fun part => part.pairs.map Prod.snd

/-- Sections have no text just if a value in them has none. -/
theorem print?_eq_none_iff {sections : List Section} :
    print? sections = none ↔ ∃ d ∈ values sections, printValue? d = none := by
  have ofPart (part : Section) :
      part.print? = none ↔ ∃ pair ∈ part.pairs, printValue? pair.2 = none := by
    have pairs := mapM_eq_none_iff (f := printPair?) (l := part.pairs)
    simp only [printPair?, Option.map_eq_none_iff] at pairs
    rw [← pairs, Section.print?]
    cases part.pairs.mapM printPair? <;> simp
  have parts := mapM_eq_none_iff (f := Section.print?) (l := sections)
  simp only [ofPart] at parts
  have all : (∃ d ∈ values sections, printValue? d = none) ↔
      ∃ part ∈ sections, ∃ pair ∈ part.pairs, printValue? pair.2 = none := by
    constructor
    · rintro ⟨d, member, none⟩
      obtain ⟨part, inside, member⟩ := List.mem_flatMap.1 member
      obtain ⟨pair, within, rfl⟩ := List.mem_map.1 member
      exact ⟨part, inside, pair, within, none⟩
    · rintro ⟨part, inside, pair, member, none⟩
      exact ⟨pair.2, List.mem_flatMap.2 ⟨part, inside, List.mem_map_of_mem member⟩, none⟩
  rw [all, ← parts, print?]
  cases sections.mapM Section.print? <;> simp

theorem allCountable_iff {sections : List Section} :
    allCountable sections ↔ ∀ d ∈ values sections, isCountable d := by
  simp only [allCountable, values, List.all_eq_true, List.mem_flatMap, List.mem_map]
  constructor
  · rintro all d ⟨part, inside, pair, member, rfl⟩
    exact all part inside pair member
  · intro all part inside pair member
    exact all pair.2 ⟨part, inside, pair, member, rfl⟩

theorem values_sectionsOf (path : List String) (fields : List (String × Datum)) :
    values (sectionsOf path fields) =
      (fields.filter isSimple).map Prod.snd ++
        (tablesIn fields).flatMap fun t => t.2.map Prod.snd := by
  rw [sectionsOf_eq, values, List.flatMap_cons, List.flatMap_map]

/-! ### Leaving out -/

/-- A section under the same header, with some of the pairs. -/
structure Section.PartOf (kept whole : Section) : Prop where
  path : kept.path = whole.path
  pairs : kept.pairs.Sublist whole.pairs

instance : Std.Refl Section.PartOf := ⟨fun part => ⟨rfl, .refl part.pairs⟩⟩

section
variable {α β : Type}

/-- What is made of pieces that are left, each perhaps with less in it, is left of what is made of
all pieces. -/
theorem mapM_less {f : α → Option β} {R : α → α → Prop} {S : β → β → Prop}
    (each : ∀ a b y, R a b → f b = some y → ∃ x, f a = some x ∧ S x y) {kept all : List α}
    (less : SublistForall₂ R kept all) :
    ∀ {ys}, all.mapM f = some ys → ∃ xs, kept.mapM f = some xs ∧ SublistForall₂ S xs ys := by
  induction less with
  | nil => exact fun _ => ⟨[], rfl, .nil⟩
  | cons related _ ih =>
    intro ys made
    simp only [List.mapM_cons, bind, Option.bind_eq_some_iff, pure, Option.some.injEq] at made
    obtain ⟨y, first, ys, others, rfl⟩ := made
    obtain ⟨x, same, lesser⟩ := each _ _ _ related first
    obtain ⟨xs, sames, lessers⟩ := ih others
    refine ⟨x :: xs, ?_, .cons lesser lessers⟩
    rw [List.mapM_cons, same, sames]
    rfl
  | cons_right _ ih =>
    intro ys made
    simp only [List.mapM_cons, bind, Option.bind_eq_some_iff, pure, Option.some.injEq] at made
    obtain ⟨y, -, ys, others, rfl⟩ := made
    obtain ⟨xs, sames, lessers⟩ := ih others
    exact ⟨xs, sames, .cons_right lessers⟩

theorem less_append {R : α → α → Prop} {kept all more others : List α}
    (first : SublistForall₂ R kept all) (second : SublistForall₂ R more others) :
    SublistForall₂ R (kept ++ more) (all ++ others) := by
  rw [List.sublistForall₂_iff] at first second ⊢
  obtain ⟨_, alike, sublist⟩ := first
  obtain ⟨_, alikeMore, sublistMore⟩ := second
  exact ⟨_, List.rel_append alike alikeMore, sublist.append sublistMore⟩

theorem intercalate_cons (between first : List α) (others : List (List α)) :
    between.intercalate (first :: others) = first ++ others.flatMap (between ++ ·) := by
  induction others generalizing first with
  | nil => simp [List.intercalate]
  | cons second others ih =>
    have rest := ih second
    simp only [List.intercalate, List.intersperse_cons_cons, List.flatten_cons] at rest ⊢
    rw [rest, List.flatMap_cons, List.append_assoc]

theorem flatMap_less (between : List α) {kept all : List (List α)}
    (less : SublistForall₂ List.Sublist kept all) :
    (kept.flatMap (between ++ ·)).Sublist (all.flatMap (between ++ ·)) := by
  induction less with
  | nil => exact List.nil_sublist _
  | cons related _ ih => exact (related.append_left between).append ih
  | cons_right _ ih => exact ih.trans (List.sublist_append_right _ _)

theorem intercalate_less (between : List α) {kept all : List (List α)}
    (less : SublistForall₂ List.Sublist kept all) :
    (between.intercalate kept).Sublist (between.intercalate all) := by
  cases less with
  | nil => exact List.nil_sublist _
  | cons related rest =>
    rw [intercalate_cons, intercalate_cons]
    exact related.append (flatMap_less between rest)
  | cons_right rest =>
    cases kept with
    | nil => exact List.nil_sublist _
    | cons first kept =>
      have later := flatMap_less between rest
      rw [List.flatMap_cons, List.append_assoc] at later
      rw [intercalate_cons, intercalate_cons]
      exact ((List.sublist_append_right _ _).trans later).trans (List.sublist_append_right _ _)

end

theorem Section.print?_less (kept whole : Section) (chars : List Char) (less : kept.PartOf whole)
    (written : whole.print? = some chars) :
    ∃ left, kept.print? = some left ∧ left.Sublist chars := by
  simp only [Section.print?, bind, Option.bind_eq_some_iff, Option.some.injEq] at written ⊢
  obtain ⟨lines, writtenLines, rfl⟩ := written
  have pairs : SublistForall₂ Eq kept.pairs whole.pairs := less.pairs.sublistForall₂
  have same (pair other : String × Datum) (line : List Char) (eq : pair = other)
      (writtenLine : printPair? other = some line) :
      ∃ left, printPair? pair = some left ∧ left.Sublist line :=
    ⟨line, eq ▸ writtenLine, .refl line⟩
  obtain ⟨left, writtenLeft, fewer⟩ := mapM_less same pairs writtenLines
  refine ⟨_, ⟨left, writtenLeft, rfl⟩, ?_⟩
  rw [less.path]
  have flat := flatMap_less [] fewer
  simp only [List.nil_append, List.flatMap_id'] at flat
  exact flat.append_left _

/-- What is left of a document is written as what is left of its text. -/
theorem print?_less {kept whole : List Section} (less : SublistForall₂ Section.PartOf kept whole)
    {text : String} (written : print? whole = some text) :
    ∃ left, print? kept = some left ∧ left.toList.Sublist text.toList := by
  simp only [print?, bind, Option.bind_eq_some_iff, Option.some.injEq] at written ⊢
  obtain ⟨parts, writtenParts, rfl⟩ := written
  obtain ⟨left, writtenLeft, fewer⟩ := mapM_less Section.print?_less less writtenParts
  refine ⟨_, ⟨left, writtenLeft, rfl⟩, ?_⟩
  rw [String.toList_ofList, String.toList_ofList]
  exact intercalate_less ['\n'] fewer

theorem sectionsOf_less {kept fields : List (String × Datum)} (sublist : kept.Sublist fields)
    (path : List String) :
    SublistForall₂ Section.PartOf (sectionsOf path kept)
      (sectionsOf path fields) := by
  rw [sectionsOf_eq, sectionsOf_eq]
  apply SublistForall₂.cons
  · exact ⟨rfl, sublist.filter _⟩
  · exact ((sublist.filterMap _).map _).sublistForall₂

end SessionPooling.Toml
