import SessionPooling.Toml.TextForm

/-! Strings and keys are read back as they were written, in each of the four forms. A form that
shows a string as it is holds nothing that its reader takes for something else; the basic forms
escape whatever does. -/
namespace SessionPooling.Toml

section
variable {φ : Type} {scan : Scan φ} {phase next : φ} {c : Char}
  {input rest read written : List Char}

theorem Scan.run_go (moves : scan.step phase c = some (.go written next))
    (more : scan.run next input = some (read, rest)) :
    scan.run phase (c :: input) = some (written ++ read, rest) := by
  simp only [Scan.run, moves, more, Option.map_some]

theorem Scan.run_stop (moves : scan.step phase c = some (.stop written)) :
    scan.run phase (c :: input) = some (written, input) := by
  simp only [Scan.run, moves]

end

/-! ### Characters of basic strings -/

theorem hexDigit?_upperHexDigit : ∀ n < 16, hexDigit? (upperHexDigit n) = some n := by decide

theorem scalar?_toNat (c : Char) : scalar? c.toNat = some c := by
  have valid : c.toNat.isValidChar := c.valid
  rw [scalar?, dif_pos valid]
  rfl

/-- A character is written as a short escape, by its code point, or as it is. -/
theorem printChar_cases (c : Char) :
    (∃ letter, printChar c = ['\\', letter] ∧ shortEscape? letter = some c) ∨
    (printChar c = '\\' :: 'u' :: fourHexDigits c.toNat ∧ c.toNat < 65536) ∨
    (printChar c = [c] ∧ isPlain c ∧ c ≠ '"' ∧ c ≠ '\\') := by
  unfold printChar
  split
  next same => exact .inl ⟨'b', rfl, congrArg some same.symm⟩
  split
  next same => exact .inl ⟨'t', rfl, congrArg some same.symm⟩
  split
  next same => exact .inl ⟨'n', rfl, congrArg some same.symm⟩
  split
  next same => exact .inl ⟨'f', rfl, congrArg some same.symm⟩
  split
  next same => exact .inl ⟨'r', rfl, congrArg some same.symm⟩
  split
  next same => exact .inl ⟨'"', rfl, congrArg some same.symm⟩
  split
  next same => exact .inl ⟨'\\', rfl, congrArg some same.symm⟩
  next noQuote noBackslash =>
    split
    next control => exact .inr (.inl ⟨rfl, by omega⟩)
    next plain =>
      refine .inr (.inr ⟨rfl, ?_, noQuote, noBackslash⟩)
      simp only [isPlain, Bool.or_eq_true, Bool.and_eq_true, decide_eq_true_eq, bne_iff_ne]
      omega

/-- A character that is written never begins with a quote or a line end. -/
theorem printChar_head (c : Char) :
    ∃ first more, printChar c = first :: more ∧ first ≠ '"' ∧ first ≠ '\n' ∧ first ≠ '\r' := by
  obtain ⟨letter, same, -⟩ | ⟨same, -⟩ | ⟨same, plain, noQuote, -⟩ := printChar_cases c
  · exact ⟨_, _, same, by decide, by decide, by decide⟩
  · exact ⟨_, _, same, by decide, by decide, by decide⟩
  · refine ⟨c, [], same, noQuote, ?_, ?_⟩
    · rintro rfl
      exact absurd plain (by decide)
    · rintro rfl
      exact absurd plain (by decide)

/-- What basic strings of both kinds do from a phase in which `held` quotes are still to be
written. -/
structure Escapes (scan : Scan BasicPhase) (phase : BasicPhase) (held : List Char) : Prop where
  plain : ∀ c, isPlain c → c ≠ '"' → c ≠ '\\' →
    scan.step phase c = some (.go (held ++ [c]) .plain)
  backslash : scan.step phase '\\' = some (.go held .escaped)
  escaped : ∀ c move, BasicPhase.escapeStep c = some move → scan.step .escaped c = some move
  code : ∀ left value c, scan.step (.code left value) c = BasicPhase.codeStep left value c

namespace Escapes
variable {scan : Scan BasicPhase} {phase : BasicPhase} {held input rest read : List Char}

theorem run_code (escapes : Escapes scan phase held) {c : Char} (short : c.toNat < 65536)
    (more : scan.run .plain input = some (read, rest)) :
    scan.run (.code 4 0) (fourHexDigits c.toNat ++ input) = some (c :: read, rest) := by
  have digit (left value n : Nat) (hex : n < 16) (later : 1 < left) :
      scan.step (.code left value) (upperHexDigit n) =
        some (.go [] (.code (left - 1) (value * 16 + n))) := by
    rw [escapes.code, BasicPhase.codeStep, hexDigit?_upperHexDigit n hex]
    simp only [if_neg (Nat.not_le.2 later)]
  have last (value n : Nat) (hex : n < 16) (same : value * 16 + n = c.toNat) :
      scan.step (.code 1 value) (upperHexDigit n) = some (.go [c] .plain) := by
    rw [escapes.code, BasicPhase.codeStep, hexDigit?_upperHexDigit n hex]
    simp only [if_pos (Nat.le_refl 1), same, scalar?_toNat, Option.map_some]
  refine Scan.run_go (digit 4 0 _ (by omega) (by decide)) ?_
  refine Scan.run_go (digit 3 _ _ (by omega) (by decide)) ?_
  refine Scan.run_go (digit 2 _ _ (by omega) (by decide)) ?_
  exact Scan.run_go (last _ _ (by omega) (by omega)) more

theorem run_printChar (escapes : Escapes scan phase held) (c : Char)
    (more : scan.run .plain input = some (read, rest)) :
    scan.run phase (printChar c ++ input) = some (held ++ c :: read, rest) := by
  obtain ⟨letter, same, stands⟩ | ⟨same, short⟩ | ⟨same, plain, noQuote, noBackslash⟩ :=
    printChar_cases c
  · have step : BasicPhase.escapeStep letter = some (.go [c] .plain) := by
      have notShort : letter ≠ 'u' := by
        rintro rfl
        cases stands
      have notLong : letter ≠ 'U' := by
        rintro rfl
        cases stands
      rw [BasicPhase.escapeStep, if_neg notShort, if_neg notLong, stands, Option.map_some]
    rw [same]
    exact Scan.run_go escapes.backslash (Scan.run_go (escapes.escaped letter _ step) more)
  · rw [same]
    refine Scan.run_go escapes.backslash ?_
    exact Scan.run_go (escapes.escaped 'u' _ rfl) (escapes.run_code short more)
  · rw [same]
    have read := Scan.run_go (escapes.plain c plain noQuote noBackslash) more
    rw [List.append_assoc] at read
    exact read

end Escapes

theorem basicText_escapes : Escapes basicText .plain [] where
  plain c plain noQuote noBackslash := by
    simp only [basicText, if_neg noQuote, if_neg noBackslash, if_pos plain, List.nil_append]
  backslash := rfl
  escaped _ _ step := step
  code _ _ _ := rfl

/-- The basic form on one line, in which every string can be written. -/
theorem basicText_run (chars rest : List Char) :
    basicText.run .plain (chars.flatMap printChar ++ '"' :: rest) = some (chars, rest) := by
  induction chars with
  | nil => exact Scan.run_stop rfl
  | cons c chars ih =>
    rw [List.flatMap_cons, List.append_assoc]
    exact basicText_escapes.run_printChar c ih

/-! ### Basic strings over lines -/

/-- The phase after quotes of which it is not known yet whether they close the string. -/
def BasicPhase.after : Nat → BasicPhase
  | 0 => .plain
  | count + 1 => .quotes (count + 1)

theorem multilineBasicText_step_after {count : Nat} (few : count < 3) {c : Char}
    (noQuote : c ≠ '"') :
    multilineBasicText.step (.after count) c = multilinePlain (List.replicate count '"') c := by
  cases count with
  | zero => simp only [multilineBasicText, BasicPhase.after, if_neg noQuote, List.replicate_zero]
  | succ count =>
    have unclosed : ¬3 ≤ count + 1 := by omega
    simp only [multilineBasicText, BasicPhase.after, if_neg noQuote, if_neg unclosed]

theorem multilineBasicText_step_quote {count : Nat} (few : count < 4) :
    multilineBasicText.step (.after count) '"' = some (.go [] (.after (count + 1))) := by
  cases count with
  | zero => rfl
  | succ count =>
    have notLast : count + 1 + 1 ≠ closingRun := by
      unfold closingRun
      omega
    simp only [multilineBasicText, BasicPhase.after, if_neg notLast, if_true]

theorem multilineBasicText_escapes {count : Nat} (few : count < 3) :
    Escapes multilineBasicText (.after count) (List.replicate count '"') where
  plain c plain noQuote noBackslash := by
    have noFeed : c ≠ '\n' := by
      rintro rfl
      exact absurd plain (by decide)
    have noReturn : c ≠ '\r' := by
      rintro rfl
      exact absurd plain (by decide)
    rw [multilineBasicText_step_after few noQuote, multilinePlain, if_neg noBackslash,
      if_neg noFeed, if_neg noReturn, if_pos plain]
  backslash := by
    rw [multilineBasicText_step_after few (by decide), multilinePlain, if_pos rfl]
  escaped c move step := by
    have noBlank : isBlank c = false := by
      rw [← Bool.not_eq_true]
      intro blank
      simp only [isBlank, Bool.or_eq_true, beq_iff_eq] at blank
      obtain rfl | rfl := blank
      · cases step
      · cases step
    have noFeed : c ≠ '\n' := by
      rintro rfl
      cases step
    have noReturn : c ≠ '\r' := by
      rintro rfl
      cases step
    simp only [multilineBasicText, noBlank, if_neg noFeed, if_neg noReturn]
    exact step
  code _ _ _ := rfl

/-- The three quotes at the end are told from up to two quotes of the string right before. -/
theorem multilineBasicText_closes {count : Nat} (few : count < 3) (rest : List Char) :
    multilineBasicText.run (.after count) ('"' :: '"' :: '"' :: '\n' :: rest) =
      some (List.replicate count '"', '\n' :: rest) := by
  obtain rfl | rfl | rfl : count = 0 ∨ count = 1 ∨ count = 2 := by omega
  all_goals rfl

/-- Each third quote in a row is escaped, so that what is still open is at most two of them. -/
theorem multilineBasicText_run (chars rest : List Char) :
    ∀ count < 3, multilineBasicText.run (.after count)
      (printLines count chars ++ '"' :: '"' :: '"' :: '\n' :: rest) =
        some (List.replicate count '"' ++ chars, '\n' :: rest) := by
  induction chars with
  | nil =>
    intro count few
    rw [List.append_nil]
    exact multilineBasicText_closes few rest
  | cons c chars ih =>
    intro count few
    have fresh := ih 0 (by decide)
    unfold printLines
    by_cases quote : c = '"'
    · subst quote
      by_cases full : count = 2
      · subst full
        have escape : multilineBasicText.step (.after 2) '\\' =
          some (.go ['"', '"'] .escaped) := rfl
        have third : multilineBasicText.step .escaped '"' = some (.go ['"'] .plain) := rfl
        exact Scan.run_go escape (Scan.run_go third fresh)
      · rw [if_pos rfl, if_neg full]
        have step : multilineBasicText.step (.after count) '"' =
            some (.go [] (.after (count + 1))) := multilineBasicText_step_quote (by omega)
        have later := ih (count + 1) (by omega)
        rw [List.replicate_succ', List.append_assoc] at later
        have read := Scan.run_go step later
        exact read
    · by_cases feed : c = '\n'
      · subst feed
        rw [if_neg quote, if_pos rfl]
        have step : multilineBasicText.step (.after count) '\n' =
            some (.go (List.replicate count '"' ++ ['\n']) .plain) := by
          rw [multilineBasicText_step_after few quote]
          rfl
        have read := Scan.run_go step fresh
        rw [List.append_assoc] at read
        exact read
      · rw [if_neg quote, if_neg feed, List.append_assoc]
        exact (multilineBasicText_escapes few).run_printChar c fresh

/-! ### Literal strings -/

theorem literalText_run {chars : List Char} (suits : TextForm.suits chars .literal)
    (rest : List Char) : literalText.run .plain (chars ++ '\'' :: rest) = some (chars, rest) := by
  induction chars with
  | nil => exact Scan.run_stop rfl
  | cons c chars ih =>
    simp only [TextForm.suits, List.all_cons, Bool.and_eq_true, bne_iff_ne] at suits ih
    obtain ⟨⟨plain, noQuote⟩, more⟩ := suits
    have step : literalText.step .plain c = some (.go [c] .plain) := by
      simp only [literalText, if_neg noQuote, if_pos plain]
    exact Scan.run_go step (ih more)

/-- The phase after quotes of which it is not known yet whether they close the string. -/
def LiteralPhase.after : Nat → LiteralPhase
  | 0 => .plain
  | count + 1 => .quotes (count + 1)

theorem multilineLiteralText_step_quote {count : Nat} (few : count < 4) :
    multilineLiteralText.step (.after count) '\'' = some (.go [] (.after (count + 1))) := by
  cases count with
  | zero => rfl
  | succ count =>
    have notLast : count + 1 + 1 ≠ closingRun := by
      unfold closingRun
      omega
    simp only [multilineLiteralText, LiteralPhase.after, if_neg notLast, if_true]

theorem multilineLiteralText_step_plain {count : Nat} (few : count < 3) {c : Char}
    (plain : TextForm.isPlainInLines c) (noQuote : c ≠ '\'') :
    multilineLiteralText.step (.after count) c =
      some (.go (List.replicate count '\'' ++ [c]) .plain) := by
  have after : multilineLiteralText.step (.after count) c =
      multilineLiteralPlain (List.replicate count '\'') c := by
    cases count with
    | zero => simp only [multilineLiteralText, LiteralPhase.after, if_neg noQuote,
        List.replicate_zero]
    | succ count =>
      have unclosed : ¬3 ≤ count + 1 := by omega
      simp only [multilineLiteralText, LiteralPhase.after, if_neg noQuote, if_neg unclosed]
  rw [after, multilineLiteralPlain]
  by_cases feed : c = '\n'
  · rw [if_pos feed, feed]
  · have noReturn : c ≠ '\r' := by
      rintro rfl
      exact absurd plain (by decide)
    simp only [TextForm.isPlainInLines, beq_eq_false_iff_ne.2 feed, Bool.or_false] at plain
    rw [if_neg feed, if_neg noReturn, if_pos plain]

theorem multilineLiteralText_closes {count : Nat} (few : count < 3) (rest : List Char) :
    multilineLiteralText.run (.after count) ('\'' :: '\'' :: '\'' :: '\n' :: rest) =
      some (List.replicate count '\'', '\n' :: rest) := by
  obtain rfl | rfl | rfl : count = 0 ∨ count = 1 ∨ count = 2 := by omega
  all_goals rfl

theorem occursIn_drop {pattern chars : List Char} (count : Nat)
    (absent : Text.occursIn pattern (List.replicate count '\'' ++ chars) = false) :
    Text.occursIn pattern chars = false := by
  induction count with
  | zero => exact absent
  | succ count ih =>
    rw [List.replicate_succ, List.cons_append, Text.occursIn, Bool.or_eq_false_iff] at absent
    exact ih absent.2

/-- Quotes that are still open count among those of which there are never three in a row. -/
theorem multilineLiteralText_run {chars : List Char} (plain : chars.all TextForm.isPlainInLines)
    (rest : List Char) :
    ∀ count < 3,
      Text.occursIn (List.replicate 3 '\'') (List.replicate count '\'' ++ chars) = false →
      multilineLiteralText.run (.after count) (chars ++ '\'' :: '\'' :: '\'' :: '\n' :: rest) =
        some (List.replicate count '\'' ++ chars, '\n' :: rest) := by
  induction chars with
  | nil =>
    intro count few _
    rw [List.append_nil]
    exact multilineLiteralText_closes few rest
  | cons c chars ih =>
    intro count few absent
    obtain ⟨first, more⟩ := Bool.and_eq_true_iff.1 plain
    by_cases quote : c = '\''
    · subst quote
      have shifted : List.replicate count '\'' ++ '\'' :: chars =
          List.replicate (count + 1) '\'' ++ chars := by
        rw [List.replicate_succ', List.append_assoc]
        rfl
      rw [shifted] at absent ⊢
      have notThird : count + 1 < 3 := by
        by_cases full : count = 2
        · subst full
          exact absurd absent (by simp [List.replicate, Text.occursIn])
        · omega
      have step : multilineLiteralText.step (.after count) '\'' =
          some (.go [] (.after (count + 1))) := multilineLiteralText_step_quote (by omega)
      have read := Scan.run_go step (ih more (count + 1) notThird absent)
      exact read
    · have absentLater := occursIn_drop count absent
      rw [Text.occursIn, Bool.or_eq_false_iff] at absentLater
      have read := Scan.run_go (multilineLiteralText_step_plain few first quote)
        (ih more 0 (by decide) absentLater.2)
      rw [List.append_assoc] at read
      exact read

/-! ### Values and keys -/

namespace TextForm

theorem suits_ofValue {chars : List Char} {form : TextForm} (chosen : ofValue chars = form) :
    form = .basic ∨ form = .multilineBasic ∨ suits chars form := by
  unfold ofValue at chosen
  cases found : [basic, literal, multilineBasic, multilineLiteral].find? (suits chars) with
  | none =>
    rw [found, Option.getD_none] at chosen
    split at chosen
    · exact .inr (.inl chosen.symm)
    · exact .inl chosen.symm
  | some suited =>
    rw [found, Option.getD_some] at chosen
    rw [← chosen]
    exact .inr (.inr (List.find?_some found))

theorem suits_ofKey (chars : List Char) :
    ofKey chars = .basic ∨ ofKey chars = .literal ∧ suits chars .literal := by
  unfold ofKey
  cases found : [basic, literal].find? (suits chars) with
  | none => exact .inl rfl
  | some suited =>
    have member := List.mem_of_find?_eq_some found
    rw [List.mem_cons, List.mem_singleton] at member
    obtain rfl | rfl := member
    · exact .inl rfl
    · exact .inr ⟨rfl, List.find?_some found⟩

end TextForm

theorem dropFirstNewline_of_head {c : Char} (noFeed : c ≠ '\n') (noReturn : c ≠ '\r')
    (input : List Char) : dropFirstNewline (c :: input) = c :: input := by
  unfold dropFirstNewline newline?
  split
  next same => exact absurd (List.cons.inj same).1 noFeed
  next same => exact absurd (List.cons.inj same).1 noReturn
  next => rfl

/-- A string over lines is read from where it begins, on the first line or the second. -/
theorem dropFirstNewline_lineStart {chars body : List Char}
    (begins : '\n' ∉ chars → ∃ c more, body = c :: more ∧ c ≠ '\n' ∧ c ≠ '\r') :
    dropFirstNewline (TextForm.inside.lineStart chars ++ body) = body := by
  unfold TextForm.inside.lineStart
  split
  · rfl
  next noFeed =>
    obtain ⟨c, more, rfl, noFeed, noReturn⟩ := begins (by simpa using noFeed)
    exact dropFirstNewline_of_head noFeed noReturn more

theorem printLines_head (chars rest : List Char) (oneLine : '\n' ∉ chars) :
    ∃ c more, printLines 0 chars ++ '"' :: rest = c :: more ∧ c ≠ '\n' ∧ c ≠ '\r' := by
  cases chars with
  | nil => exact ⟨'"', rest, rfl, by decide, by decide⟩
  | cons c chars =>
    have noFeed : c ≠ '\n' := by
      rintro rfl
      exact oneLine List.mem_cons_self
    unfold printLines
    by_cases quote : c = '"'
    · rw [if_pos quote, if_neg (by decide)]
      exact ⟨_, _, rfl, by decide, by decide⟩
    · obtain ⟨first, more, same, -, begins⟩ := printChar_head c
      rw [if_neg quote, if_neg noFeed, same]
      exact ⟨_, _, rfl, begins⟩

theorem literal_head {chars : List Char} (plain : chars.all TextForm.isPlainInLines)
    (rest : List Char) (oneLine : '\n' ∉ chars) :
    ∃ c more, chars ++ '\'' :: rest = c :: more ∧ c ≠ '\n' ∧ c ≠ '\r' := by
  cases chars with
  | nil => exact ⟨'\'', rest, rfl, by decide, by decide⟩
  | cons c chars =>
    refine ⟨c, _, rfl, ?_, ?_⟩
    · rintro rfl
      exact oneLine List.mem_cons_self
    · rintro rfl
      exact absurd (Bool.and_eq_true_iff.1 plain).1 (by decide)

theorem asText_toList (s : String) (rest : List Char) :
    asText (some (s.toList, rest)) = some (s, rest) := by
  simp only [asText, Option.map_some, String.ofList_toList]

/-- Single quotes are not taken for tripled ones: a third quote follows no two of the form, since
the string itself does not begin with one. -/
theorem text?_basic (s : String) (rest : List Char) :
    text? (TextForm.basic.print s.toList ++ '\n' :: rest) = some (s, '\n' :: rest) := by
  have written : TextForm.basic.print s.toList ++ '\n' :: rest =
      '"' :: (s.toList.flatMap printChar ++ '"' :: '\n' :: rest) := by
    simp only [TextForm.print, TextForm.quotes, TextForm.inside, List.append_assoc,
      List.cons_append, List.nil_append]
  have single : ∀ more, s.toList.flatMap printChar ++ '"' :: '\n' :: rest ≠ '"' :: '"' :: more := by
    intro more same
    cases chars : s.toList with
    | nil =>
      rw [chars] at same
      simp at same
    | cons c chars' =>
      obtain ⟨first, tail, begins, noQuote, -⟩ := printChar_head c
      rw [chars, List.flatMap_cons, begins] at same
      exact noQuote (List.cons.inj same).1
  rw [written, text?.eq_2 _ single, basicText_run, asText_toList]

theorem text?_literal {s : String} (suits : TextForm.suits s.toList .literal)
    (nonempty : s.toList ≠ []) (rest : List Char) :
    text? (TextForm.literal.print s.toList ++ '\n' :: rest) = some (s, '\n' :: rest) := by
  have written : TextForm.literal.print s.toList ++ '\n' :: rest =
      '\'' :: (s.toList ++ '\'' :: '\n' :: rest) := by
    simp only [TextForm.print, TextForm.quotes, TextForm.inside, List.append_assoc,
      List.cons_append, List.nil_append]
  have single : ∀ more, s.toList ++ '\'' :: '\n' :: rest ≠ '\'' :: '\'' :: more := by
    intro more same
    cases chars : s.toList with
    | nil => exact nonempty chars
    | cons c chars' =>
      rw [chars] at same suits
      obtain rfl : c = '\'' := (List.cons.inj same).1
      simp [TextForm.suits] at suits
  rw [written, text?.eq_4 _ single, literalText_run suits, asText_toList]

theorem text?_multilineBasic (s : String) (rest : List Char) :
    text? (TextForm.multilineBasic.print s.toList ++ '\n' :: rest) = some (s, '\n' :: rest) := by
  have written : TextForm.multilineBasic.print s.toList ++ '\n' :: rest =
      '"' :: '"' :: '"' :: (TextForm.inside.lineStart s.toList ++
        (printLines 0 s.toList ++ '"' :: '"' :: '"' :: '\n' :: rest)) := by
    simp only [TextForm.print, TextForm.quotes, TextForm.inside, List.append_assoc,
      List.cons_append, List.nil_append]
  have read := multilineBasicText_run s.toList rest 0 (by decide)
  rw [written, text?.eq_1, dropFirstNewline_lineStart (printLines_head s.toList _)]
  exact (congrArg asText read).trans (asText_toList s _)

theorem text?_multilineLiteral {s : String} (suits : TextForm.suits s.toList .multilineLiteral)
    (rest : List Char) :
    text? (TextForm.multilineLiteral.print s.toList ++ '\n' :: rest) = some (s, '\n' :: rest) := by
  have written : TextForm.multilineLiteral.print s.toList ++ '\n' :: rest =
      '\'' :: '\'' :: '\'' :: (TextForm.inside.lineStart s.toList ++
        (s.toList ++ '\'' :: '\'' :: '\'' :: '\n' :: rest)) := by
    simp only [TextForm.print, TextForm.quotes, TextForm.inside, List.append_assoc,
      List.cons_append, List.nil_append]
  obtain ⟨plain, absent⟩ := Bool.and_eq_true_iff.1 suits
  have read := multilineLiteralText_run plain rest 0 (by decide) ((Bool.not_eq_true' _).mp absent)
  rw [written, text?.eq_3, dropFirstNewline_lineStart (literal_head plain _)]
  exact (congrArg asText read).trans (asText_toList s _)

/-- A string that is written as a value is read back, in whatever form it was written. -/
theorem text?_printText (s : String) (rest : List Char) :
    text? (printText s ++ '\n' :: rest) = some (s, '\n' :: rest) := by
  unfold printText
  have suits := TextForm.suits_ofValue (rfl : TextForm.ofValue s.toList = .ofValue s.toList)
  cases chosen : TextForm.ofValue s.toList with
  | basic => exact text?_basic s rest
  | multilineBasic => exact text?_multilineBasic s rest
  | literal =>
    rw [chosen] at suits
    obtain none | none | suits := suits
    · cases none
    · cases none
    · refine text?_literal suits ?_ rest
      intro empty
      rw [empty] at chosen
      cases chosen
  | multilineLiteral =>
    rw [chosen] at suits
    obtain none | none | suits := suits
    · cases none
    · cases none
    · exact text?_multilineLiteral suits rest

/-- Words are taken up to where they end. -/
theorem takeWhile_of_all {p : Char → Bool} {word : List Char} (inside : word.all p) {c : Char}
    (outside : p c = false) (rest : List Char) : (word ++ c :: rest).takeWhile p = word := by
  rw [List.takeWhile_append_of_pos (List.all_eq_true.1 inside), List.takeWhile_cons, outside]
  exact List.append_nil word

theorem simpleKey?_bare {key : String} (nonempty : key.toList ≠ [])
    (bare : key.toList.all isBareKey) {c : Char} (stops : isBareKey c = false) (rest : List Char) :
    simpleKey? (key.toList ++ c :: rest) = some (key, c :: rest) := by
  have apart (quote : Char) (notBare : isBareKey quote = false) (more : List Char) :
      key.toList ++ c :: rest ≠ quote :: more := by
    intro same
    cases chars : key.toList with
    | nil => exact nonempty chars
    | cons first chars' =>
      rw [chars] at same bare
      rw [(List.cons.inj same).1, List.all_cons, notBare] at bare
      cases bare
  rw [simpleKey?.eq_3 _ (apart '"' rfl) (apart '\'' rfl), takeWhile_of_all bare stops]
  simp [nonempty]

/-- A key is read back with any character after it that is in no bare key. -/
theorem simpleKey?_printKey (key : String) {c : Char} (stops : isBareKey c = false)
    (rest : List Char) : simpleKey? (printKey key ++ c :: rest) = some (key, c :: rest) := by
  unfold printKey
  split
  next bare =>
    simp only [Bool.and_eq_true, Bool.not_eq_true'] at bare
    obtain ⟨nonempty, bare⟩ := bare
    exact simpleKey?_bare (by simpa using nonempty) bare stops rest
  · obtain chosen | ⟨chosen, suits⟩ := TextForm.suits_ofKey key.toList
    · have read := basicText_run key.toList (c :: rest)
      simp only [chosen, TextForm.print, TextForm.quotes, TextForm.inside, List.append_assoc,
        List.cons_append, List.nil_append, simpleKey?, read, asText_toList]
    · have read := literalText_run suits (c :: rest)
      simp only [chosen, TextForm.print, TextForm.quotes, TextForm.inside, List.append_assoc,
        List.cons_append, List.nil_append, simpleKey?, read, asText_toList]

end SessionPooling.Toml
