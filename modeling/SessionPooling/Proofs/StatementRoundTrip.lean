import SessionPooling.Proofs.ValueRoundTrip
import SessionPooling.Toml.Statement

/-! The lines of a printed document are read as the statements that they were written for: a header
for each section, and a key with its value for each of its pairs. -/
namespace SessionPooling.Toml

/-! ### Parts of a line -/

/-- What a written key may begin with. -/
def startsKey (c : Char) : Bool := isBareKey c || c == '"' || c == '\''

theorem printKey_head (key : String) : ∃ c more, printKey key = c :: more ∧ startsKey c := by
  unfold printKey
  split
  next bare =>
    simp only [Bool.and_eq_true, Bool.not_eq_true'] at bare
    obtain ⟨nonempty, bare⟩ := bare
    cases chars : key.toList with
    | nil => simp_all
    | cons c more =>
      rw [chars, List.all_cons, Bool.and_eq_true] at bare
      exact ⟨c, more, rfl, by simp [startsKey, bare.1]⟩
  · cases TextForm.ofKey key.toList with
    | literal => exact ⟨'\'', _, rfl, rfl⟩
    | multilineLiteral => exact ⟨'\'', _, rfl, rfl⟩
    | _ => exact ⟨'"', _, rfl, rfl⟩

theorem ne_of_startsKey {c d : Char} (starts : startsKey c) (other : startsKey d = false) :
    c ≠ d := by
  rintro rfl
  rw [starts] at other
  cases other

theorem skipBlanks_of_head {c : Char} (noBlank : isBlank c = false) (rest : List Char) :
    skipBlanks (c :: rest) = c :: rest := by
  rw [skipBlanks, List.dropWhile_cons, noBlank]
  rfl

theorem isBlank_of_startsKey {c : Char} (starts : startsKey c) : isBlank c = false := by
  rw [isBlank, Bool.or_eq_false_iff, beq_eq_false_iff_ne, beq_eq_false_iff_ne]
  exact ⟨ne_of_startsKey starts rfl, ne_of_startsKey starts rfl⟩

theorem skipBlanks_printKey (key : String) (rest : List Char) :
    skipBlanks (printKey key ++ rest) = printKey key ++ rest := by
  obtain ⟨c, more, same, starts⟩ := printKey_head key
  rw [same]
  exact skipBlanks_of_head (isBlank_of_startsKey starts) _

theorem lineEnd?_newline (rest : List Char) : lineEnd? ('\n' :: rest) = some rest := rfl

/-- A line that begins with a key is not over. -/
theorem lineEnd?_printKey (key : String) (rest : List Char) :
    lineEnd? (printKey key ++ rest) = none := by
  obtain ⟨c, more, same, starts⟩ := printKey_head key
  have noComment : skipComment (c :: (more ++ rest)) = c :: (more ++ rest) :=
    skipComment.eq_2 _ fun _ same => ne_of_startsKey starts rfl (List.cons.inj same).1
  have noNewline : newline? (c :: (more ++ rest)) = none :=
    newline?.eq_3 _ (fun _ same => ne_of_startsKey starts rfl (List.cons.inj same).1)
      fun _ same => ne_of_startsKey starts rfl (List.cons.inj same).1
  rw [lineEnd?, skipBlanks_printKey, same, List.cons_append, noComment]
  exact noNewline

/-! ### Paths -/

/-- Keys behind points, as they follow the first key of a path. -/
def points (more : List String) : List Char := more.flatMap fun key => '.' :: printKey key

theorem intercalate_printKey (first : String) (more : List String) :
    ['.'].intercalate ((first :: more).map printKey) = printKey first ++ points more := by
  induction more generalizing first with
  | nil => simp [List.intercalate, points]
  | cons second more ih =>
    have rest := ih second
    simp only [List.intercalate, List.map_cons, List.intersperse_cons_cons, List.flatten_cons,
      points, List.flatMap_cons] at rest ⊢
    rw [rest]
    rfl

theorem keysAfterPoint?_stop {count : Nat} (positive : 0 < count) {input rest : List Char}
    {c : Char} (begins : skipBlanks input = c :: rest) (noPoint : c ≠ '.') :
    keysAfterPoint? count input = some ([], c :: rest) := by
  obtain ⟨count, rfl⟩ := Nat.exists_eq_add_of_lt positive
  rw [Nat.zero_add, keysAfterPoint?, begins]
  split
  next same => exact absurd (List.cons.inj same).1 noPoint
  next => rfl

theorem points_head (more : List String) (rest : List Char) :
    ∃ c tail, points more ++ ']' :: rest = c :: tail ∧ isBareKey c = false := by
  cases more with
  | nil => exact ⟨']', rest, rfl, rfl⟩
  | cons key more => exact ⟨'.', _, rfl, rfl⟩

/-- The keys of a path are read back up to the bracket that closes a header. -/
theorem keysAfterPoint?_points (more : List String) (rest : List Char) :
    ∀ count, more.length < count →
      keysAfterPoint? count (points more ++ ']' :: rest) = some (more, ']' :: rest) := by
  induction more with
  | nil => exact fun count short => keysAfterPoint?_stop short rfl (by decide)
  | cons key more ih =>
    intro count short
    obtain ⟨count, rfl⟩ := Nat.exists_eq_add_of_lt (Nat.zero_lt_of_lt short)
    have later := ih (0 + count) (by simp only [List.length_cons] at short; omega)
    have written : points (key :: more) ++ ']' :: rest =
        '.' :: (printKey key ++ (points more ++ ']' :: rest)) := by
      simp only [points, List.flatMap_cons, List.cons_append, List.append_assoc]
    have pointed : skipBlanks ('.' :: (printKey key ++ (points more ++ ']' :: rest))) =
        '.' :: (printKey key ++ (points more ++ ']' :: rest)) := rfl
    obtain ⟨c, tail, same, stops⟩ := points_head more rest
    rw [written, keysAfterPoint?, pointed]
    simp only [skipBlanks_printKey]
    rw [same] at later ⊢
    simp only [simpleKey?_printKey key stops, later, bind, Option.bind]

/-- A path is read back up to the bracket that closes a header. -/
theorem path?_header (first : String) {more : List String} (short : more.length < depthLimit - 1)
    (rest : List Char) :
    path? (printKey first ++ (points more ++ ']' :: rest)) = some (⟨first, more⟩, ']' :: rest) := by
  have later := keysAfterPoint?_points more rest _ short
  obtain ⟨c, tail, same, stops⟩ := points_head more rest
  rw [path?, skipBlanks_printKey]
  rw [same] at later ⊢
  simp only [simpleKey?_printKey first stops, later, bind, Option.bind]

theorem path?_pair (key : String) (rest : List Char) :
    path? (printKey key ++ ' ' :: '=' :: rest) = some (⟨key, []⟩, '=' :: rest) := by
  have stop : keysAfterPoint? (depthLimit - 1) (' ' :: '=' :: rest) = some ([], '=' :: rest) :=
    keysAfterPoint?_stop (by decide) rfl (by decide)
  have single : simpleKey? (printKey key ++ ' ' :: '=' :: rest) = some (key, ' ' :: '=' :: rest) :=
    simpleKey?_printKey key rfl _
  rw [path?, skipBlanks_printKey]
  simp only [single, stop, bind, Option.bind]

/-! ### Lines -/

theorem line?_header (first : String) {more : List String} (short : more.length < depthLimit - 1)
    (rest : List Char) :
    line? ('[' :: (printKey first ++ (points more ++ ']' :: '\n' :: rest))) =
      some (some (.header ⟨first, more⟩), rest) := by
  have read : headerPath? [']'] (printKey first ++ (points more ++ ']' :: '\n' :: rest)) =
      some (⟨first, more⟩, rest) := by
    simp only [headerPath?, path?_header first short, bind, Option.bind]
    rfl
  obtain ⟨c, tail, same, starts⟩ := printKey_head first
  have noItem : c ≠ '[' := ne_of_startsKey starts rfl
  have bracket : skipBlanks ('[' :: (printKey first ++ (points more ++ ']' :: '\n' :: rest))) =
      '[' :: (printKey first ++ (points more ++ ']' :: '\n' :: rest)) := rfl
  unfold line?
  rw [bracket]
  split
  next twice =>
    rw [same] at twice
    exact absurd (List.cons.inj (List.cons.inj twice).2).1 noItem
  next once =>
    obtain rfl := (List.cons.inj once).2
    rw [read]
    rfl
  next neither => exact absurd rfl (neither _)

theorem line?_pair (key : String) {d : Datum} {value : List Char}
    (written : printValue? d = some value) (rest : List Char) :
    line? (printKey key ++ ' ' :: '=' :: ' ' :: (value ++ '\n' :: rest)) =
      some (some (.pair ⟨key, []⟩ d), rest) := by
  obtain ⟨c, tail, same, starts⟩ := printKey_head key
  obtain ⟨first, more, begins, -, -, noBlank⟩ := printValue?_head written
  have toValue : skipBlanks (' ' :: (value ++ '\n' :: rest)) = value ++ '\n' :: rest := by
    rw [begins]
    exact skipBlanks_of_head noBlank _
  have equals : expect? ['='] ('=' :: ' ' :: (value ++ '\n' :: rest)) =
      some (' ' :: (value ++ '\n' :: rest)) := rfl
  unfold line?
  rw [skipBlanks_printKey]
  split
  next list =>
    rw [same] at list
    exact absurd (List.cons.inj list).1 (ne_of_startsKey starts rfl)
  next list =>
    rw [same] at list
    exact absurd (List.cons.inj list).1 (ne_of_startsKey starts rfl)
  next =>
    simp only [lineEnd?_printKey, path?_pair, equals, toValue, value?_printValue written,
      lineEnd?_newline, bind, Option.bind]

/-! ### Documents -/

/-- Lines that are read as these statements, whatever follows them. -/
def Spells (chars : List Char) (found : List Statement) : Prop :=
  ∀ rest more, (∀ count, rest.length ≤ count → statements? count rest = some more) →
    ∀ count, (chars ++ rest).length ≤ count →
      statements? count (chars ++ rest) = some (found ++ more)

namespace Spells
variable {chars more : List Char} {found others : List Statement}

theorem nil : Spells [] [] := fun _ _ read => read

theorem append (first : Spells chars found) (second : Spells more others) :
    Spells (chars ++ more) (found ++ others) := by
  intro rest after read count long
  rw [List.append_assoc] at long ⊢
  rw [List.append_assoc]
  exact first (more ++ rest) (others ++ after) (second rest after read) count long

theorem line {statement : Option Statement} (nonempty : chars ≠ [])
    (reads : ∀ rest, line? (chars ++ rest) = some (statement, rest)) :
    Spells chars statement.toList := by
  intro rest more read count long
  have positive : 0 < chars.length := List.length_pos_iff.2 nonempty
  rw [List.length_append] at long
  obtain ⟨count, rfl⟩ : ∃ n, count = n + 1 := ⟨count - 1, by omega⟩
  have notEmpty : (chars ++ rest).isEmpty = false := by simp [nonempty]
  simp only [statements?, notEmpty, reads, read count (by omega), bind, Option.bind]
  rfl

/-- Lines that nothing follows. -/
theorem read (spells : Spells chars found) : statements? chars.length chars = some found := by
  have ended (count : Nat) (_ : ([] : List Char).length ≤ count) :
      statements? count [] = some [] := by
    cases count <;> rfl
  have all := spells [] [] ended chars.length (by simp)
  rwa [List.append_nil, List.append_nil] at all

end Spells

def pairStatement (pair : String × Datum) : Statement := .pair ⟨pair.1, []⟩ pair.2

theorem spells_pairs {pairs : List (String × Datum)} {lines : List (List Char)}
    (written : pairs.mapM printPair? = some lines) :
    Spells lines.flatten (pairs.map pairStatement) := by
  induction pairs generalizing lines with
  | nil =>
    rw [List.mapM_nil] at written
    obtain rfl := Option.some.inj written
    exact .nil
  | cons pair pairs ih =>
    simp only [List.mapM_cons, bind, Option.bind_eq_some_iff, pure, Option.some.injEq] at written
    obtain ⟨line, writtenLine, lines, writtenLines, rfl⟩ := written
    obtain ⟨value, writtenValue, rfl⟩ := Option.map_eq_some_iff.1 writtenLine
    obtain ⟨c, tail, same, -⟩ := printKey_head pair.1
    have first : Spells (printKey pair.1 ++ [' ', '=', ' '] ++ value ++ ['\n'])
        (some (pairStatement pair)).toList := by
      apply Spells.line
      · rw [same]
        exact List.cons_ne_nil _ _
      · intro rest
        have shown : _ = some (some (pairStatement pair), rest) :=
          line?_pair pair.1 writtenValue rest
        simpa only [List.append_assoc, List.cons_append, List.nil_append] using shown
    exact first.append (ih writtenLines)

namespace Section

def statements (part : Section) : List Statement :=
  match part.path with
  | [] => []
  | first :: more => .header ⟨first, more⟩ :: part.pairs.map pairStatement

/-- A header names at least one table, and no more than a reader takes. -/
def HasHeader (part : Section) : Prop := part.path ≠ [] ∧ part.path.length < depthLimit

variable {part : Section} {chars : List Char}

theorem spells (written : part.print? = some chars) (header : part.HasHeader) :
    Spells chars part.statements := by
  obtain ⟨path, pairs⟩ := part
  obtain ⟨nonempty, short⟩ := header
  cases path with
  | nil => exact absurd rfl nonempty
  | cons first more =>
    simp only [print?, bind, Option.bind_eq_some_iff, Option.some.injEq] at written
    obtain ⟨lines, writtenLines, rfl⟩ := written
    rw [intercalate_printKey]
    have read : Spells ('[' :: (printKey first ++ points more) ++ [']', '\n'])
        (some (Statement.header ⟨first, more⟩)).toList := by
      apply Spells.line
      · exact List.cons_ne_nil _ _
      · intro rest
        have fewer : more.length < depthLimit - 1 := Nat.lt_sub_of_add_lt short
        have shown := line?_header first fewer rest
        simpa only [List.append_assoc, List.cons_append, List.nil_append] using shown
    exact read.append (spells_pairs writtenLines)

theorem print?_head (written : part.print? = some chars) : ∃ tail, chars = '[' :: tail := by
  simp only [print?, bind, Option.bind_eq_some_iff, Option.some.injEq] at written
  obtain ⟨lines, -, rfl⟩ := written
  exact ⟨_, rfl⟩

end Section

theorem spells_sections {sections : List Section} {parts : List (List Char)}
    (written : sections.mapM Section.print? = some parts)
    (headers : ∀ part ∈ sections, part.HasHeader) :
    Spells (['\n'].intercalate parts) (sections.flatMap Section.statements) := by
  induction sections generalizing parts with
  | nil =>
    rw [List.mapM_nil] at written
    obtain rfl := Option.some.inj written
    exact .nil
  | cons part sections ih =>
    simp only [List.mapM_cons, bind, Option.bind_eq_some_iff, pure, Option.some.injEq] at written
    obtain ⟨chars, writtenPart, others, writtenOthers, rfl⟩ := written
    obtain ⟨header, headers⟩ := List.forall_mem_cons.1 headers
    have first := Section.spells writtenPart header
    have rest := ih writtenOthers headers
    have blank : Spells ['\n'] (none : Option Statement).toList :=
      .line (List.cons_ne_nil _ _) fun _ => rfl
    cases others with
    | nil => simpa [List.intercalate] using first.append rest
    | cons second others =>
      have apart : ['\n'].intercalate (chars :: second :: others) =
          chars ++ (['\n'] ++ ['\n'].intercalate (second :: others)) := by
        simp only [List.intercalate, List.intersperse_cons_cons, List.flatten_cons]
      rw [apart]
      exact first.append (blank.append rest)

/-- A document that is printed is read as the statements of its sections. -/
theorem read?_print {sections : List Section} {text : String}
    (written : print? sections = some text) (headers : ∀ part ∈ sections, part.HasHeader) :
    read? text = document? (sections.flatMap Section.statements) := by
  simp only [print?, bind, Option.bind_eq_some_iff, Option.some.injEq] at written
  obtain ⟨parts, writtenParts, rfl⟩ := written
  have read := (spells_sections writtenParts headers).read
  have noMark : ∀ tail, ['\n'].intercalate parts ≠ byteOrderMark :: tail := by
    intro tail same
    cases sections with
    | nil =>
      rw [List.mapM_nil] at writtenParts
      obtain rfl := Option.some.inj writtenParts
      cases same
    | cons part sections =>
      simp only [List.mapM_cons, bind, Option.bind_eq_some_iff, pure, Option.some.injEq]
        at writtenParts
      obtain ⟨chars, writtenPart, others, -, rfl⟩ := writtenParts
      obtain ⟨first, rfl⟩ := Section.print?_head writtenPart
      have begins : (['\n'].intercalate (('[' :: first) :: others)).head? = some '[' := by
        cases others <;> simp [List.intercalate]
      rw [same] at begins
      exact absurd (Option.some.inj begins) (by decide)
  unfold read?
  rw [String.toList_ofList]
  cases chars : ['\n'].intercalate parts with
  | nil =>
    rw [chars] at read
    simp only [read, Option.bind_some]
  | cons c tail =>
    rw [chars] at read
    have other : c ≠ byteOrderMark := by
      rintro rfl
      exact noMark tail chars
    simp only [if_neg other, read, Option.bind_some]

end SessionPooling.Toml
