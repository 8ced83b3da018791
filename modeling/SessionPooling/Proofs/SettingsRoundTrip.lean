import SessionPooling.Config.File
import SessionPooling.Pool.Build
import SessionPooling.Proofs.RecordRoundTrip
import SessionPooling.Proofs.TomlCodec

/-! Settings that are saved with a faithful codec are loaded again as they were, also after fields
have been left out of the file that hold their defaults. -/
namespace SessionPooling

open List (SublistForall₂)

/-- The largest number that a file can hold. -/
def Settings.largestNumber : Nat := 9223372036854775807

/-! ### Files -/

namespace Folder
variable {folder after : Folder} {place other : Place} {node : FileNode}

theorem lookup?_filter {α : Type} (nodes : List (Place × α)) (distinct : other ≠ place) :
    lookup? other (nodes.filter fun n => n.1 != place) = lookup? other nodes := by
  induction nodes with
  | nil => rfl
  | cons n nodes ih =>
    by_cases here : n.1 = place
    · have elsewhere : n.1 ≠ other := fun same => distinct (same.symm.trans here)
      rw [List.filter_cons_of_neg (by simp [here]), ih, lookup?_cons, if_neg elsewhere]
    · rw [List.filter_cons_of_pos (by simpa using here), lookup?_cons, lookup?_cons, ih]

theorem look_put_of_ne (folder : Folder) (node : FileNode) (distinct : other ≠ place) :
    (folder.put place node).look other = folder.look other := by
  have nodes : lookup? other (folder.put place node).nodes = lookup? other folder.nodes := by
    rw [put, lookup?_cons, if_neg (Ne.symm distinct), lookup?_filter _ distinct]
  rw [look, look, nodes]

/-- Where something other than a folder may stand. -/
theorem look_put_self (notFolder : folder.look place ≠ .ok .folder)
    (notLong : folder.look place ≠ .error .nameTooLong) :
    (folder.put place node).look place = .ok node := by
  unfold look at notFolder notLong ⊢
  by_cases around : place.isAround
  · exact absurd (if_pos around) notFolder
  · rw [if_neg around] at notLong ⊢
    by_cases long : place.isTooLong
    · exact absurd (if_pos long) notLong
    · rw [if_neg long, put, lookup?_cons, if_pos rfl]

/-- A way through folders stays one when a file is put somewhere. -/
theorem follow_put (notFolder : folder.look place ≠ .ok .folder) (node : FileNode)
    (parts : List PathPart) :
    ∀ start {final}, folder.follow start parts = .ok final →
      (folder.put place node).follow start parts = .ok final := by
  induction parts with
  | nil => exact fun _ _ followed => followed
  | cons part parts ih =>
    intro start final followed
    rw [follow] at followed ⊢
    have distinct : start ≠ place := by
      rintro rfl
      split at followed
      · cases followed
      · cases followed
      next same => exact notFolder same
    rw [look_put_of_ne folder node distinct]
    cases looked : folder.look start with
    | error cause =>
      rw [looked] at followed
      cases followed
    | ok stands =>
      rw [looked] at followed
      cases stands with
      | file text => cases followed
      | folder => exact ih _ followed

/-- What a file was written over, and where. -/
theorem write_put {path : String} {text : Option String}
    (written : folder.write path text = .ok after) :
    ∃ route place, Route.ofText folder.name path = .ok route ∧
      folder.follow [] route.parts = .ok place ∧ route.asksFolder = false ∧
      folder.look place ≠ .ok .folder ∧ folder.look place ≠ .error .nameTooLong ∧
      after = folder.put place (.file text) := by
  unfold write at written
  cases routed : Route.ofText folder.name path with
  | error cause =>
    rw [routed] at written
    cases written
  | ok route =>
    rw [routed] at written
    cases followed : folder.follow [] route.parts with
    | error cause =>
      simp only [bind, Except.bind, followed] at written
      cases written
    | ok place =>
      simp only [bind, Except.bind, followed] at written
      split at written
      · cases written
      next asked =>
        refine ⟨route, place, rfl, followed, eq_false_of_ne_true asked, ?_⟩
        cases looked : folder.look place with
        | ok node =>
          rw [looked] at written
          cases node with
          | folder => cases written
          | file old => exact ⟨nofun, nofun, (Except.ok.inj written).symm⟩
        | error cause =>
          rw [looked] at written
          cases cause with
          | notFound => exact ⟨nofun, nofun, (Except.ok.inj written).symm⟩
          | _ => cases written

/-- What was written to a file is read from it. -/
theorem read_of_write {path text : String} (written : folder.write path (some text) = .ok after) :
    after.read path = .ok text := by
  obtain ⟨route, place, routed, followed, asked, notFolder, notLong, rfl⟩ := write_put written
  have sameWay := follow_put notFolder (.file (some text)) route.parts [] followed
  have sameRoute : Route.ofText (folder.put place (.file (some text))).name path = .ok route :=
    routed
  have found : (folder.put place (.file (some text))).find path = .ok (.file (some text)) := by
    simp only [find, sameRoute, sameWay, look_put_self notFolder notLong, asked, bind, Except.bind]
    rfl
  simp only [read, found, bind, Except.bind]

end Folder

/-! ### Documents of settings -/

namespace PoolConfig

theorem distinct_toFields (config : PoolConfig) : Datum.Distinct config.toFields := by
  refine ⟨config.keys_toFields, fun name inner member => ?_⟩
  obtain rfl : inner = config.labels.entries.map fun e => (e.1, .text e.2) := by
    cases named : config.role <;>
      simp_all [toFields, Datum.fieldOf, Datum.ofNat, Datum.ofLabels, PoolKind.toDatum]
  rw [List.map_map]
  exact config.labels.nodup_keys

/-- What the settings of a pool hold. -/
theorem leaves_toFields (config : PoolConfig) :
    config.toFields.flatMap (fun f => f.2.leaves) =
      config.kind.toDatum :: config.numbers.map .ofNat ++ config.strings.map .text := by
  have labels : List.flatMap (fun f => f.2.leaves)
      (if config.labels.isEmpty then [] else [("labels", Datum.ofLabels config.labels)]) =
        (config.labels.entries.map Prod.snd).map .text := by
    cases empty : config.labels.isEmpty with
    | true =>
      have none : config.labels.entries = [] := List.isEmpty_iff.1 empty
      rw [none]
      rfl
    | false => simp [Datum.ofLabels, Datum.leaves]
  rw [toFields, List.flatMap_append, labels, strings, List.map_append, ← List.append_assoc]
  cases config.role <;> rfl

end PoolConfig

namespace RetryConfig

theorem distinct_toFields (config : RetryConfig) : Datum.Distinct config.toFields := by
  refine ⟨config.keys_toFields, fun name inner member => ?_⟩
  cases set : config.defaultRetryDelayMs <;>
    simp [toFields, set, Datum.fieldOf, Datum.ofNat] at member

/-- What the settings of an executor hold. -/
theorem leaves_toFields (config : RetryConfig) :
    config.toFields.flatMap (fun f => f.2.leaves) =
      config.numbers.map .ofNat ++ [.bool config.jitter] := by
  obtain ⟨timeout, delay, initial, longest, jitter⟩ := config
  cases delay <;> rfl

end RetryConfig

namespace Settings

def numbers (settings : Settings) : List Nat := settings.pool.numbers ++ settings.retry.numbers

theorem distinct_document (settings : Settings) : settings.document.Distinct := by
  refine ⟨?_, fun t member => ?_⟩
  · exact (by decide : ["pool", "retry"].Nodup)
  simp only [document, List.mem_cons, List.not_mem_nil, or_false] at member
  obtain rfl | rfl := member
  · exact settings.pool.distinct_toFields
  · exact settings.retry.distinct_toFields

/-- All that settings hold. -/
theorem mem_values_document (settings : Settings) {d : Datum} :
    d ∈ settings.document.values ↔
      d = settings.pool.kind.toDatum ∨ (∃ n ∈ settings.numbers, .ofNat n = d) ∨
        (∃ s ∈ settings.pool.strings, .text s = d) ∨ d = .bool settings.retry.jitter := by
  have all : settings.document.values =
      settings.pool.toFields.flatMap (fun f => f.2.leaves) ++
        settings.retry.toFields.flatMap (fun f => f.2.leaves) := by
    simp [document, Document.values]
  rw [all, settings.pool.leaves_toFields, settings.retry.leaves_toFields, numbers]
  simp only [List.mem_append, List.mem_cons, List.mem_map, List.not_mem_nil, or_false]
  constructor
  · rintro (((kind | ⟨n, inside, same⟩) | string) | (⟨n, inside, same⟩ | flag))
    · exact .inl kind
    · exact .inr (.inl ⟨n, .inl inside, same⟩)
    · exact .inr (.inr (.inl string))
    · exact .inr (.inl ⟨n, .inr inside, same⟩)
    · exact .inr (.inr (.inr flag))
  · rintro (kind | ⟨n, inPool | inRetry, same⟩ | string | flag)
    · exact .inl (.inl (.inl kind))
    · exact .inl (.inl (.inr ⟨n, inPool, same⟩))
    · exact .inr (.inl ⟨n, inRetry, same⟩)
    · exact .inl (.inr string)
    · exact .inr (.inr flag)

theorem isScalar_of_mem {settings : Settings} {d : Datum}
    (member : d ∈ settings.document.values) : d.IsScalar := by
  obtain rfl | ⟨n, -, rfl⟩ | ⟨s, -, rfl⟩ | rfl := settings.mem_values_document.1 member <;> trivial

theorem isVast_ofNat {n : Nat} : (Datum.ofNat n).IsVast ↔ largestNumber < n := by
  simp only [Datum.ofNat, Datum.IsVast, largestNumber]
  omega

/-- Only numbers of the settings may be out of range. -/
theorem exists_isVast_iff (settings : Settings) :
    (∃ d ∈ settings.document.values, d.IsVast) ↔ ∃ n ∈ settings.numbers, largestNumber < n := by
  constructor
  · rintro ⟨d, member, vast⟩
    obtain rfl | ⟨n, inside, rfl⟩ | ⟨s, -, rfl⟩ | rfl := settings.mem_values_document.1 member
    · exact vast.elim
    · exact ⟨n, inside, isVast_ofNat.1 vast⟩
    · exact vast.elim
    · exact vast.elim
  · rintro ⟨n, inside, large⟩
    exact ⟨.ofNat n, settings.mem_values_document.2 (.inr (.inl ⟨n, inside, rfl⟩)),
      isVast_ofNat.2 large⟩

/-! ### What is left of a document -/

/-- What may be left of a table: of its fields all but some that hold their defaults, or nothing at
all where every field does. -/
def LeftOf (standard fields : List (String × Datum)) : Option (List (String × Datum)) → Prop
  | none => fields = standard
  | some kept => Abridges standard fields kept

theorem LeftOf.all (standard fields : List (String × Datum)) :
    LeftOf standard fields (some fields) := Abridges.refl standard fields

/-- A document of settings with what is left of its tables. -/
def documentLeft (pool retry : Option (List (String × Datum))) : Document :=
  (pool.map ("pool", ·)).toList ++ (retry.map ("retry", ·)).toList

section
variable {settings : Settings} {pool retry : Option (List (String × Datum))}
  (poolLeft : LeftOf PoolConfig.standard.toFields settings.pool.toFields pool)
  (retryLeft : LeftOf RetryConfig.standard.toFields settings.retry.toFields retry)
include poolLeft retryLeft

theorem left_of_mem {t : String × List (String × Datum)} (member : t ∈ documentLeft pool retry) :
    ∃ whole ∈ settings.document, t.1 = whole.1 ∧ t.2.Sublist whole.2 := by
  rw [documentLeft, List.mem_append] at member
  simp only [Option.mem_toList, Option.map_eq_some_iff] at member
  obtain ⟨kept, rfl, rfl⟩ | ⟨kept, rfl, rfl⟩ := member
  · exact ⟨_, List.mem_cons_self, rfl, poolLeft.sublist⟩
  · exact ⟨_, List.mem_cons_of_mem _ List.mem_cons_self, rfl, retryLeft.sublist⟩

theorem distinct_left : (documentLeft pool retry).Distinct where
  names := by cases pool <;> cases retry <;> simp [documentLeft]
  tables t member := by
    obtain ⟨whole, inside, -, sublist⟩ := left_of_mem poolLeft retryLeft member
    obtain ⟨names, inner⟩ := settings.distinct_document.tables whole inside
    exact ⟨(sublist.map Prod.fst).nodup names, fun name fields present =>
      inner name fields (sublist.subset present)⟩

theorem values_left {d : Datum} (member : d ∈ (documentLeft pool retry).values) :
    d ∈ settings.document.values := by
  obtain ⟨t, inside, held⟩ := List.mem_flatMap.1 member
  obtain ⟨whole, wholeInside, -, sublist⟩ := left_of_mem poolLeft retryLeft inside
  obtain ⟨f, present, held⟩ := List.mem_flatMap.1 held
  exact List.mem_flatMap.2
    ⟨whole, wholeInside, List.mem_flatMap.2 ⟨f, sublist.subset present, held⟩⟩

/-- What is left of settings is read as the settings. -/
theorem ofDatum?_left (small : ∀ n ∈ settings.numbers, n ≤ largestNumber) {d : Datum}
    (alike : (documentLeft pool retry).toDatum.Alike d) :
    ofDatum? Datum.files d = some settings := by
  have fits {n : Nat} (inside : n ∈ settings.numbers) : n ≤ maxWord :=
    Nat.le_trans (small n inside) (by decide)
  have poolFits : ∀ n ∈ settings.pool.numbers, n ≤ maxWord := fun n inside =>
    fits (List.mem_append_left _ inside)
  have retryFits : ∀ n ∈ settings.retry.numbers, n ≤ maxWord := fun n inside =>
    fits (List.mem_append_right _ inside)
  obtain ⟨found, rfl, -, there⟩ := alike.fields_found
  have readPool : Datum.Fields.optional ⟨found⟩ "pool" standard.pool
      (PoolConfig.ofDatum? Datum.files) = some settings.pool := by
    have inPool := there "pool"
    cases pool with
    | none =>
      rw [PoolConfig.eq_standard poolLeft poolFits]
      cases retry <;> exact Datum.Fields.optional_of_none inPool
    | some kept =>
      exact Datum.Fields.optional_of_some inPool fun d same =>
        PoolConfig.ofDatum?_abridged poolLeft poolFits same
  have readRetry : Datum.Fields.optional ⟨found⟩ "retry" standard.retry
      (RetryConfig.ofDatum? Datum.files) = some settings.retry := by
    have inRetry := there "retry"
    cases retry with
    | none =>
      rw [RetryConfig.eq_standard retryLeft retryFits]
      cases pool <;> exact Datum.Fields.optional_of_none inRetry
    | some kept =>
      have reads (d : Datum) (same : (Datum.table kept).Alike d) :=
        RetryConfig.ofDatum?_abridged retryLeft retryFits same
      cases pool <;> exact Datum.Fields.optional_of_some inRetry reads
  simp only [ofDatum?, Datum.toFields?, readPool, readRetry, bind, Option.bind]

/-- Less is written where less is left. -/
theorem sections_left :
    SublistForall₂ Toml.Section.PartOf (Toml.sections (documentLeft pool retry))
      (Toml.sections settings.document) := by
  have fromPool : SublistForall₂ Toml.Section.PartOf
      (Toml.sections (pool.map ("pool", ·)).toList)
      (Toml.sectionsOf ["pool"] settings.pool.toFields) := by
    cases pool with
    | none => exact .nil
    | some kept => simpa [Toml.sections] using Toml.sectionsOf_less poolLeft.sublist ["pool"]
  have fromRetry : SublistForall₂ Toml.Section.PartOf
      (Toml.sections (retry.map ("retry", ·)).toList)
      (Toml.sectionsOf ["retry"] settings.retry.toFields) := by
    cases retry with
    | none => exact .nil
    | some kept => simpa [Toml.sections] using Toml.sectionsOf_less retryLeft.sublist ["retry"]
  have whole : Toml.sections settings.document =
      Toml.sectionsOf ["pool"] settings.pool.toFields ++
        Toml.sectionsOf ["retry"] settings.retry.toFields := by
    simp [Toml.sections, document]
  rw [whole, documentLeft, Toml.sections, List.flatMap_append]
  exact Toml.less_append fromPool fromRetry

/-- What is left of settings is written as what is left of their text. -/
theorem text_left {whole text : String} (written : Toml.codec.write settings.document = .text whole)
    (left : Toml.codec.write (documentLeft pool retry) = .text text) :
    text.toList.Sublist whole.toList := by
  rw [Toml.write_eq_text_iff] at written left
  obtain ⟨made, same, less⟩ := Toml.print?_less (sections_left poolLeft retryLeft) written
  obtain rfl := Option.some.inj (same.symm.trans left)
  exact less

variable {codec : Codec}

theorem parse_of_conveys (small : ∀ n ∈ settings.numbers, n ≤ largestNumber)
    (valid : settings.validate = .ok ()) {text : String}
    (conveys : codec.Conveys text (documentLeft pool retry)) :
    codec.parse text = .ok settings := by
  obtain ⟨d, read, alike⟩ := conveys
  rw [Codec.parse, read, Option.bind_some, ofDatum?_left poolLeft retryLeft small alike]
  simp only [valid]
  rfl

theorem exists_text_left (faithful : codec.Faithful)
    (small : ∀ n ∈ settings.numbers, n ≤ largestNumber) :
    ∃ text, codec.write (documentLeft pool retry) = .text text ∧
      codec.Conveys text (documentLeft pool retry) := by
  apply faithful.writes _ (distinct_left poolLeft retryLeft)
  intro d member
  have inside := values_left poolLeft retryLeft member
  refine ⟨isScalar_of_mem inside, fun vast => ?_⟩
  obtain ⟨n, inNumbers, large⟩ := settings.exists_isVast_iff.1 ⟨d, inside, vast⟩
  exact Nat.not_lt.2 (small n inNumbers) large

end

/-! ### Saving and loading -/

theorem save_of_large {codec : Codec} (faithful : codec.Faithful) {settings : Settings}
    (large : ∃ n ∈ settings.numbers, largestNumber < n) (folder : Folder) (path : String) :
    codec.save settings folder path = (.error (.config .unencodable), folder) := by
  have refused : codec.write settings.document = .refused :=
    faithful.refuses _ settings.distinct_document (fun _ => isScalar_of_mem)
      (settings.exists_isVast_iff.2 large)
  simp only [Codec.save, Codec.print, refused]

/-- What was read keeps the rules. -/
theorem validate_of_parse {codec : Codec} {text : String} {settings : Settings}
    (read : codec.parse text = .ok settings) : settings.validate = .ok () := by
  unfold Codec.parse at read
  split at read
  · cases read
  next found _ =>
    cases judged : found.validate with
    | error cause =>
      rw [judged] at read
      cases read
    | ok _ =>
      rw [judged] at read
      obtain rfl : found = settings := Except.ok.inj read
      exact judged

/-- Settings that keep the rules make a pool, or panic where there is no room for it. -/
theorem ofConfig_of_validate {settings : Settings} (valid : settings.validate = .ok ()) :
    Pool.ofConfig settings.pool =
      if hasRoomFor settings.pool.kind settings.pool.size then
        .ok (PoolParts.ofConfig settings.pool).pool
      else .panic := by
  unfold Pool.ofConfig
  cases judged : settings.pool.validate with
  | error cause =>
    rw [validate, judged] at valid
    cases valid
  | ok _ => rfl

/-- Where the quotes in their strings can be counted, settings are saved as TOML writes them. -/
theorem save_eq {settings : Settings}
    (countable : ∀ s ∈ settings.pool.strings, Toml.TextForm.hasCountableQuotes s.toList) :
    settings.save = Toml.codec.save settings := by
  have same : Toml.countingCodec.write settings.document =
      Toml.codec.write settings.document := by
    apply Toml.countingCodec_write
    intro d member
    obtain rfl | ⟨n, -, rfl⟩ | ⟨s, inside, rfl⟩ | rfl := settings.mem_values_document.1 member
    · cases settings.pool.kind <;> decide +kernel
    · rfl
    · exact countable s inside
    · rfl
  funext folder path
  simp only [save, Codec.save, Codec.print, same]

theorem load_eq : load = Toml.codec.load := rfl

theorem ofText_eq : ofText = Toml.codec.parse := rfl

/-- With a faithful codec, settings that keep the rules and have no number that is too large for a
file are saved wherever a file can be written, and loaded again as they were. They are also read
from every text that says what is left of them without fields that hold their defaults, and there is
one. Settings with a number that is too large are refused, and leave what is there. Settings that
are read keep the rules, so that they are not refused when a pool is made of them: it is made, or
making it panics because there is no room for so many sessions. -/
theorem save_load {codec : Codec} (faithful : codec.Faithful) :
    (∀ settings : Settings, settings.validate = .ok () →
      (∀ n ∈ settings.numbers, n ≤ largestNumber) →
      (∃ whole, codec.write settings.document = .text whole ∧ ∀ folder path after,
        folder.write path (some whole) = .ok after →
        codec.save settings folder path = (.ok (), after) ∧
          (codec.load after path).1 = .ok settings) ∧
      ∀ pool retry, LeftOf PoolConfig.standard.toFields settings.pool.toFields pool →
        LeftOf RetryConfig.standard.toFields settings.retry.toFields retry →
        (∃ text, codec.write (documentLeft pool retry) = .text text ∧
          codec.Conveys text (documentLeft pool retry)) ∧
        ∀ text, codec.Conveys text (documentLeft pool retry) →
          codec.parse text = .ok settings) ∧
    (∀ (settings : Settings) (folder : Folder) (path : String),
      (∃ n ∈ settings.numbers, largestNumber < n) →
      codec.save settings folder path = (.error (.config .unencodable), folder)) ∧
    ∀ text settings, codec.parse text = .ok settings →
      settings.validate = .ok () ∧ (∀ e, Pool.ofConfig settings.pool ≠ .error e) ∧
        Pool.ofConfig settings.pool =
          if hasRoomFor settings.pool.kind settings.pool.size then
            .ok (PoolParts.ofConfig settings.pool).pool
          else .panic := by
  refine ⟨fun settings valid small => ⟨?_, fun pool retry poolLeft retryLeft => ⟨?_, ?_⟩⟩, ?_, ?_⟩
  · have poolLeft := LeftOf.all PoolConfig.standard.toFields settings.pool.toFields
    have retryLeft := LeftOf.all RetryConfig.standard.toFields settings.retry.toFields
    obtain ⟨whole, written, conveys⟩ := exists_text_left poolLeft retryLeft faithful small
    have made : codec.write settings.document = .text whole := written
    refine ⟨whole, made, fun folder path after done => ⟨?_, ?_⟩⟩
    · simp only [Codec.save, Codec.print, made, done]
    · simp only [Codec.load, Folder.read_of_write done,
        parse_of_conveys poolLeft retryLeft small valid conveys]
  · exact exists_text_left poolLeft retryLeft faithful small
  · exact fun text => parse_of_conveys poolLeft retryLeft small valid
  · exact fun settings folder path large => save_of_large faithful large folder path
  · intro text settings read
    have valid := validate_of_parse read
    have made := ofConfig_of_validate valid
    refine ⟨valid, fun e same => ?_, made⟩
    rw [made] at same
    split at same <;> cases same

/-- Settings with quotes, escapes and dots in their strings. -/
def quoted : Settings where
  pool :=
    { PoolConfig.standard with
      kind := .bursty
      role := some "it's"
      labels := .ofList
        [("", "a \"b\" \\"), ("a.b", "\"\"\"'''\n"), ("team", "'\n\"\"\""), ("é", "\u0007")] }
  retry := { RetryConfig.standard with timeoutSecs := 0, defaultRetryDelayMs := some 5 }

/-- The quoted settings with the least number that is too large. -/
def oversized : Settings :=
  { quoted with retry := { quoted.retry with maxBackoffMs := largestNumber + 1 } }

theorem save_load_of_quoted :
    Toml.codec.Faithful ∧
    (∃ after, quoted.save (.empty "config") "a" = (.ok (), after) ∧
      (load after "a").1 = .ok quoted) ∧
    (∃ whole text, Toml.codec.write quoted.document = .text whole ∧
      Toml.codec.write
        (documentLeft
          (some (quoted.pool.toFields.filter fun f => f.1 ∉ ["size", "default_timeout_secs"]))
          (some quoted.retry.toFields)) = .text text ∧
      text.toList.Sublist whole.toList ∧ ofText text = .ok quoted ∧
      Pool.ofConfig quoted.pool = .ok (PoolParts.ofConfig quoted.pool).pool) ∧
    ∀ folder path, oversized.save folder path = (.error (.config .unencodable), folder) := by
  have valid : quoted.validate = .ok () := rfl
  have small : ∀ n ∈ quoted.numbers, n ≤ largestNumber := by decide
  have countable : ∀ s ∈ quoted.pool.strings, Toml.TextForm.hasCountableQuotes s.toList := by
    decide +kernel
  obtain ⟨settled, refused, kept⟩ := save_load Toml.codec_faithful
  obtain ⟨⟨whole, written, saves⟩, left⟩ := settled quoted valid small
  refine ⟨Toml.codec_faithful, ?_, ?_, fun folder path => ?_⟩
  · have route : Route.ofText "config" "a" = .ok ⟨[.name "a"], false⟩ := by
      rw [Route.ofText, if_neg (by decide +kernel), if_neg (by decide +kernel)]
      exact congrArg Except.ok (by decide +kernel)
    have done : (Folder.empty "config").write "a" (some whole) =
        .ok ((Folder.empty "config").put ["a"] (.file (some whole))) := by
      simp only [Folder.write, Folder.empty, route, bind, Except.bind]
      rfl
    rw [save_eq countable, load_eq]
    exact ⟨_, saves _ _ _ done⟩
  · have poolLeft : LeftOf PoolConfig.standard.toFields quoted.pool.toFields
        (some (quoted.pool.toFields.filter fun f => f.1 ∉ ["size", "default_timeout_secs"])) := by
      apply Abridges.of_names quoted.pool.keys_toFields
      intro name named
      obtain rfl | rfl : name = "size" ∨ name = "default_timeout_secs" := by simpa using named
      · rfl
      · rfl
    have retryLeft := LeftOf.all RetryConfig.standard.toFields quoted.retry.toFields
    obtain ⟨⟨text, writtenLeft, conveys⟩, reads⟩ := left _ _ poolLeft retryLeft
    have read : ofText text = .ok quoted := by
      rw [ofText_eq]
      exact reads text conveys
    obtain ⟨-, -, made⟩ := kept text quoted read
    exact ⟨whole, text, written, writtenLeft, text_left poolLeft retryLeft written writtenLeft, read,
      made⟩
  · have same : oversized.save = Toml.codec.save oversized := save_eq countable
    rw [same]
    exact refused oversized folder path ⟨largestNumber + 1, by decide, Nat.lt_succ_self _⟩

end Settings
end SessionPooling
