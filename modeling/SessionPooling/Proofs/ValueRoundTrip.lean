import SessionPooling.Proofs.TextRoundTrip
import SessionPooling.Toml.Print
import SessionPooling.Toml.Value

/-! Every value that has a text is read back from it: strings in all their forms, truth values, and
integers with and without a sign. None of them is taken for a date or a time, which also begin with
digits. -/
namespace SessionPooling.Toml

theorem ne_cons_of_all {p : Char → Bool} {chars : List Char} (all : chars.all p) {c : Char}
    (outside : p c = false) (rest : List Char) : chars ≠ c :: rest := by
  rintro rfl
  rw [List.all_cons, outside] at all
  cases all

/-! ### Decimal digits -/

theorem groupedBy_of_all {digits : List Char} (nonempty : digits ≠ [])
    (all : digits.all Char.isDigit) : groupedBy Char.isDigit digits := by
  induction digits with
  | nil => exact absurd rfl nonempty
  | cons c digits ih =>
    obtain ⟨first, more⟩ := Bool.and_eq_true_iff.1 all
    cases digits with
    | nil => exact first
    | cons d digits =>
      have noGap : d ≠ '_' := by
        rintro rfl
        exact absurd (Bool.and_eq_true_iff.1 more).1 (by decide)
      have grouped := ih (List.cons_ne_nil d digits) more
      unfold groupedBy
      split
      next same => cases same
      next same => cases same
      next same => exact absurd (List.cons.inj (List.cons.inj same).2).1 noGap
      next same =>
        obtain ⟨rfl, rfl⟩ := List.cons.inj same
        rw [first, grouped]
        rfl

theorem digitsValue_eq {digits : List Char} (all : digits.all Char.isDigit) :
    digitsValue 10 digits = Nat.ofDigitChars 10 digits 0 := by
  unfold digitsValue Nat.ofDigitChars
  generalize 0 = value
  induction digits generalizing value with
  | nil => rfl
  | cons c digits ih =>
    obtain ⟨first, more⟩ := Bool.and_eq_true_iff.1 all
    have hex : hexDigit? c = some (c.toNat - '0'.toNat) := by
      rw [hexDigit?, if_pos first]
    rw [List.foldl_cons, List.foldl_cons, hex, Option.elim_some, Nat.mul_comm value]
    exact ih more _

theorem all_toDigits (n : Nat) : (Nat.toDigits 10 n).all Char.isDigit :=
  List.all_eq_true.2 fun _ member => Nat.isDigit_of_mem_toDigits (by decide) (by decide) member

/-- Only zero is written with a zero in front. -/
theorem toDigits_head (n : Nat) : n = 0 ∨ (Nat.toDigits 10 n).head? ≠ some '0' := by
  induction n using Nat.strongRecOn with
  | ind n ih =>
    by_cases short : n < 10
    · have digit : ∀ n < 10, n = 0 ∨ [n.digitChar].head? ≠ some '0' := by decide
      rw [Nat.toDigits_of_lt_base short]
      exact digit n short
    · rw [Nat.toDigits_of_base_le (by decide) (by omega), List.head?_append]
      have shorter := ih (n / 10) (by omega)
      have positive : n / 10 ≠ 0 := by omega
      have nonempty := Nat.toDigits_ne_nil (n := n / 10) (b := 10)
      cases digits : Nat.toDigits 10 (n / 10) with
      | nil => exact absurd digits nonempty
      | cons c more =>
        rw [digits] at shorter
        exact .inr (shorter.resolve_left positive)

theorem isDecimal_toDigits (n : Nat) : isDecimal (Nat.toDigits 10 n) := by
  rw [isDecimal, groupedBy_of_all Nat.toDigits_ne_nil (all_toDigits n), Bool.true_and]
  obtain rfl | head := toDigits_head n
  · rfl
  · rw [bne_iff_ne.2 head, Bool.or_true]

theorem digitsValue_toDigits (n : Nat) : digitsValue 10 (Nat.toDigits 10 n) = n := by
  rw [digitsValue_eq (all_toDigits n), Nat.ofDigitChars_ten_toDigits]

/-! ### Integers -/

theorem toList_toString_ofNat (n : Nat) : (toString (n : Int)).toList = Nat.toDigits 10 n := by
  have written : toString (n : Int) = Nat.repr n := rfl
  rw [written, Nat.repr_eq_ofList_toDigits, String.toList_ofList]

theorem toList_toString_negSucc (n : Nat) :
    (toString (Int.negSucc n)).toList = '-' :: Nat.toDigits 10 (n + 1) := by
  have written : toString (Int.negSucc n) = "-" ++ Nat.repr (n + 1) := rfl
  rw [written, Nat.repr_eq_ofList_toDigits, String.toList_append, String.toList_ofList,
    String.toList_ofList]
  rfl

theorem anyInteger?_toString (n : Int) : anyInteger? (toString n).toList = some n := by
  cases n with
  | ofNat n =>
    have written : (toString (Int.ofNat n)).toList = Nat.toDigits 10 n := toList_toString_ofNat n
    have unsigned : splitSign (Nat.toDigits 10 n) = (false, Nat.toDigits 10 n) :=
      splitSign.eq_3 _ (ne_cons_of_all (all_toDigits n) rfl) (ne_cons_of_all (all_toDigits n) rfl)
    have decimal (mark : Char) (noDigit : mark.isDigit = false) (more : List Char) :
        Nat.toDigits 10 n ≠ '0' :: mark :: more := by
      intro same
      have all := all_toDigits n
      rw [same, List.all_cons, List.all_cons, noDigit] at all
      simp at all
    rw [written, anyInteger?.eq_4 _ (decimal 'x' rfl) (decimal 'o' rfl) (decimal 'b' rfl), unsigned]
    simp only [if_pos (isDecimal_toDigits n), digitsValue_toDigits]
    rfl
  | negSucc n =>
    have unsigned : splitSign ('-' :: Nat.toDigits 10 (n + 1)) = (true, Nat.toDigits 10 (n + 1)) :=
      rfl
    have signed (mark : Char) (more : List Char) :
        '-' :: Nat.toDigits 10 (n + 1) ≠ '0' :: mark :: more := by
      simp
    rw [toList_toString_negSucc, anyInteger?.eq_4 _ (signed 'x') (signed 'o') (signed 'b'),
      unsigned]
    simp only [if_pos (isDecimal_toDigits (n + 1)), digitsValue_toDigits, if_true]
    rfl

/-! ### Values that are neither strings nor dates -/

theorem text?_of_unquoted {c : Char} (noQuote : c ≠ '"') (noLiteral : c ≠ '\'')
    (input : List Char) : text? (c :: input) = none := by
  have quote (rest : List Char) : c :: input ≠ '"' :: rest :=
    fun same => noQuote (List.cons.inj same).1
  have literal (rest : List Char) : c :: input ≠ '\'' :: rest :=
    fun same => noLiteral (List.cons.inj same).1
  exact text?.eq_5 _ (fun _ => quote _) (fun _ => quote _) (fun _ => literal _) fun _ => literal _

theorem fixedDigits?_of_head {c : Char} (noDigit : c.isDigit = false) (width : Nat)
    (input : List Char) : fixedDigits? (width + 1) (c :: input) = none := by
  simp [fixedDigits?, noDigit]

/-- Where digits of a fixed number were read, a digit follows or what comes after the digits. -/
theorem fixedDigits?_next {digits : List Char} (all : digits.all Char.isDigit) {c : Char}
    (noDigit : c.isDigit = false) {width n : Nat} {input rest : List Char}
    (read : fixedDigits? width (digits ++ c :: input) = some (n, rest)) :
    ∃ next more, rest = next :: more ∧ (next.isDigit ∨ next = c) := by
  simp only [fixedDigits?, Option.ite_none_right_eq_some, Option.some.injEq, Prod.mk.injEq] at read
  obtain ⟨⟨-, taken⟩, -, rfl⟩ := read
  have inside : width ≤ digits.length := by
    rw [← Nat.not_lt]
    intro beyond
    obtain ⟨k, rfl⟩ : ∃ k, width = digits.length + (k + 1) := ⟨width - digits.length - 1, by omega⟩
    rw [List.take_length_add_append, List.take_succ_cons, List.all_append, List.all_cons,
      noDigit] at taken
    simp at taken
  rw [List.drop_append_of_le_length inside]
  cases left : digits.drop width with
  | nil => exact ⟨c, input, rfl, .inr rfl⟩
  | cons next more =>
    have member : next ∈ digits.drop width := by
      rw [left]
      exact List.mem_cons_self
    exact ⟨next, _, rfl, .inl (List.all_eq_true.1 all next (List.mem_of_mem_drop member))⟩

theorem expect?_of_ne {wanted next : Char} (other : next ≠ wanted) (more : List Char) :
    expect? [wanted] (next :: more) = none := by
  simp [expect?, other]

/-- Digits that no mark of a date or a time follows are neither. -/
theorem moment?_of_digits {digits : List Char} (all : digits.all Char.isDigit) {c : Char}
    (noDigit : c.isDigit = false) (noDash : c ≠ '-') (noColon : c ≠ ':') (input : List Char) :
    moment? (digits ++ c :: input) = none := by
  have unmarked (width : Nat) (mark : Char) (noMark : mark.isDigit = false) (other : c ≠ mark) :
      (fixedDigits? width (digits ++ c :: input)).bind (fun read => expect? [mark] read.2) =
        none := by
    cases read : fixedDigits? width (digits ++ c :: input) with
    | none => rfl
    | some found =>
      obtain ⟨next, more, same, digit | rfl⟩ := fixedDigits?_next all noDigit read
      · have unlike : next ≠ mark := by
          rintro rfl
          rw [noMark] at digit
          cases digit
        rw [Option.bind_some, same, expect?_of_ne unlike]
      · rw [Option.bind_some, same, expect?_of_ne other]
  have noDate : date? (digits ++ c :: input) = none := by
    unfold date?
    have year := unmarked 4 '-' rfl noDash
    cases read : fixedDigits? 4 (digits ++ c :: input) with
    | none => rfl
    | some found =>
      rw [read, Option.bind_some] at year
      simp only [bind, Option.bind, year]
  have noTime : timeOfDay? (digits ++ c :: input) = none := by
    unfold timeOfDay?
    have hour := unmarked 2 ':' rfl noColon
    cases read : fixedDigits? 2 (digits ++ c :: input) with
    | none => rfl
    | some found =>
      rw [read, Option.bind_some] at hour
      simp only [bind, Option.bind, hour]
  simp only [moment?, noDate, noTime]

theorem moment?_of_head {c : Char} (noDigit : c.isDigit = false) (input : List Char) :
    moment? (c :: input) = none := by
  have noDate : date? (c :: input) = none := by
    simp only [date?, fixedDigits?_of_head noDigit, bind, Option.bind]
  simp only [moment?, noDate, timeOfDay?, fixedDigits?_of_head noDigit, bind, Option.bind]

/-! ### Values -/

theorem scalarValue?_of_token {token rest : List Char} {d : Datum}
    (noText : text? (token ++ '\n' :: rest) = none)
    (noMoment : moment? (token ++ '\n' :: rest) = none) (inside : token.all isTokenChar)
    (means : tokenValue? token = some d) :
    scalarValue? (token ++ '\n' :: rest) = some (d, '\n' :: rest) := by
  unfold scalarValue?
  rw [noText, noMoment, takeWhile_of_all inside rfl]
  simp only [means, Option.map_some, List.drop_left]

theorem isTokenChar_of_isDigit {c : Char} (digit : c.isDigit) : isTokenChar c := by
  simp [isTokenChar, Char.isAlphanum, digit]

theorem tokenValue?_of_integer {token : List Char} {n : Int} (read : anyInteger? token = some n)
    (range : inRange n) (noTrue : ∀ rest, token ≠ 't' :: rest)
    (noFalse : ∀ rest, token ≠ 'f' :: rest) : tokenValue? token = some (.integer n) := by
  have integer : integer? token = some n := by
    rw [integer?, read]
    exact if_pos range
  rw [tokenValue?, if_neg (noTrue _), if_neg (noFalse _), integer]

theorem scalarValue?_integer {n : Int} (range : inRange n) (rest : List Char) :
    scalarValue? ((toString n).toList ++ '\n' :: rest) = some (.integer n, '\n' :: rest) := by
  have read := anyInteger?_toString n
  cases n with
  | ofNat n =>
    have written : (toString (Int.ofNat n)).toList = Nat.toDigits 10 n := toList_toString_ofNat n
    have all := all_toDigits n
    rw [written] at read ⊢
    have noText : text? (Nat.toDigits 10 n ++ '\n' :: rest) = none := by
      cases digits : Nat.toDigits 10 n with
      | nil => exact absurd digits Nat.toDigits_ne_nil
      | cons c more =>
        apply text?_of_unquoted
        · rintro rfl
          exact ne_cons_of_all all rfl more digits
        · rintro rfl
          exact ne_cons_of_all all rfl more digits
    have inside : (Nat.toDigits 10 n).all isTokenChar := List.all_eq_true.2 fun c member =>
      isTokenChar_of_isDigit (List.all_eq_true.1 all c member)
    exact scalarValue?_of_token noText (moment?_of_digits all rfl (by decide) (by decide) rest)
      inside (tokenValue?_of_integer read range (ne_cons_of_all all rfl) (ne_cons_of_all all rfl))
  | negSucc n =>
    rw [toList_toString_negSucc] at read ⊢
    have inside : ('-' :: Nat.toDigits 10 (n + 1)).all isTokenChar :=
      List.all_eq_true.2 fun c member => by
        obtain rfl | member := List.mem_cons.1 member
        · rfl
        · exact isTokenChar_of_isDigit (List.all_eq_true.1 (all_toDigits (n + 1)) c member)
    exact scalarValue?_of_token (text?_of_unquoted (by decide) (by decide) _)
      (moment?_of_head rfl _) inside (tokenValue?_of_integer read range (by simp) (by simp))

/-- A value that has a text is read back from it, up to the end of its line. -/
theorem scalarValue?_printValue {d : Datum} {chars : List Char}
    (written : printValue? d = some chars) (rest : List Char) :
    scalarValue? (chars ++ '\n' :: rest) = some (d, '\n' :: rest) := by
  cases d with
  | text s =>
    obtain rfl := Option.some.inj written
    rw [scalarValue?, text?_printText]
  | bool b =>
    obtain rfl := Option.some.inj written
    cases b with
    | true =>
      exact scalarValue?_of_token (text?_of_unquoted (by decide) (by decide) _)
        (moment?_of_head rfl _) rfl rfl
    | false =>
      exact scalarValue?_of_token (text?_of_unquoted (by decide) (by decide) _)
        (moment?_of_head rfl _) rfl rfl
  | integer n =>
    rw [printValue?, Option.ite_none_right_eq_some] at written
    obtain ⟨range, same⟩ := written
    obtain rfl := Option.some.inj same
    exact scalarValue?_integer range rest
  | _ => cases written

theorem printText_head (s : String) :
    ∃ c more, printText s = c :: more ∧ c ≠ '[' ∧ c ≠ '\x7b' ∧ isBlank c = false := by
  unfold printText
  cases TextForm.ofValue s.toList with
  | basic => exact ⟨'"', _, rfl, by decide, by decide, rfl⟩
  | literal => exact ⟨'\'', _, rfl, by decide, by decide, rfl⟩
  | multilineBasic => exact ⟨'"', _, rfl, by decide, by decide, rfl⟩
  | multilineLiteral => exact ⟨'\'', _, rfl, by decide, by decide, rfl⟩

/-- A value begins like no list or table, and not with a blank. -/
theorem printValue?_head {d : Datum} {chars : List Char} (written : printValue? d = some chars) :
    ∃ c more, chars = c :: more ∧ c ≠ '[' ∧ c ≠ '\x7b' ∧ isBlank c = false := by
  cases d with
  | text s =>
    obtain rfl := Option.some.inj written
    exact printText_head s
  | bool b =>
    obtain rfl := Option.some.inj written
    cases b with
    | true => exact ⟨'t', _, rfl, by decide, by decide, rfl⟩
    | false => exact ⟨'f', _, rfl, by decide, by decide, rfl⟩
  | integer n =>
    rw [printValue?, Option.ite_none_right_eq_some] at written
    obtain ⟨-, same⟩ := written
    obtain rfl := Option.some.inj same
    cases n with
    | ofNat n =>
      have spelled : (toString (Int.ofNat n)).toList = Nat.toDigits 10 n := toList_toString_ofNat n
      have all := all_toDigits n
      rw [spelled]
      cases digits : Nat.toDigits 10 n with
      | nil => exact absurd digits Nat.toDigits_ne_nil
      | cons c more =>
        have digit : c.isDigit := by
          apply List.all_eq_true.1 all
          rw [digits]
          exact List.mem_cons_self
        refine ⟨c, more, rfl, ?_, ?_, ?_⟩
        · rintro rfl
          cases digit
        · rintro rfl
          cases digit
        · rw [isBlank, Bool.or_eq_false_iff, beq_eq_false_iff_ne, beq_eq_false_iff_ne]
          constructor
          · rintro rfl
            cases digit
          · rintro rfl
            cases digit
    | negSucc n =>
      rw [toList_toString_negSucc]
      exact ⟨'-', _, rfl, by decide, by decide, rfl⟩
  | _ => cases written

theorem value?_printValue {d : Datum} {chars : List Char} (written : printValue? d = some chars)
    (depth : Nat) (rest : List Char) :
    value? depth (chars ++ '\n' :: rest) = some (d, '\n' :: rest) := by
  have scalar := scalarValue?_printValue written rest
  cases depth with
  | zero => exact scalar
  | succ depth =>
    obtain ⟨c, more, rfl, noList, noTable, -⟩ := printValue?_head written
    rw [List.cons_append] at scalar ⊢
    rw [value?.eq_4 _ depth (fun _ same => noList (List.cons.inj same).1)
      fun _ same => noTable (List.cons.inj same).1]
    exact scalar

end SessionPooling.Toml
