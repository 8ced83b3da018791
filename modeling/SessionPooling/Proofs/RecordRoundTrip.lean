import SessionPooling.Data.Records
import SessionPooling.Proofs.Documents

/-! The settings of a pool and those of an executor are read from data that say what their fields
say, also after fields have been left out that hold their defaults. -/
namespace SessionPooling

theorem Datum.toNat?_ofNat {n largest : Nat} (small : n ≤ largest) :
    (Datum.ofNat n).toNat? largest = some n := by
  rw [Datum.ofNat, Datum.toNat?, if_pos ⟨Int.natCast_nonneg n, Int.ofNat_le.2 small⟩,
    Int.toNat_natCast]

namespace Datum.Fields
variable {α : Type} {found : List (String × Datum)} {name : String} {read : Datum → Option α}
  {value byDefault : α}

theorem optional_of_none (there : Option.Rel Alike none (lookup? name found)) :
    optional ⟨found⟩ name byDefault read = some byDefault := by
  unfold optional
  generalize lookup? name found = held at there
  cases there
  rfl

theorem optional_of_some {d : Datum} (there : Option.Rel Alike (some d) (lookup? name found))
    (reads : ∀ e, d.Alike e → read e = some value) :
    optional ⟨found⟩ name byDefault read = some value := by
  unfold optional
  generalize lookup? name found = held at there
  cases there with
  | some same => exact reads _ same

end Datum.Fields

/-- What is left of the fields of a record when some are left out that hold their defaults. -/
structure Abridges (standard fields kept : List (String × Datum)) : Prop where
  sublist : kept.Sublist fields
  leftOut : ∀ f ∈ fields, f ∈ kept ∨ f ∈ standard

namespace Abridges
variable {standard fields kept found : List (String × Datum)}

theorem refl (standard fields : List (String × Datum)) : Abridges standard fields fields :=
  ⟨.refl fields, fun _ member => .inl member⟩

/-- Fields may be left out by their names, if they hold what the defaults hold under these. -/
theorem of_names (keys : (fields.map Prod.fst).Nodup) (names : List String)
    (same : ∀ name ∈ names, lookup? name fields = lookup? name standard) :
    Abridges standard fields (fields.filter fun f => f.1 ∉ names) := by
  refine ⟨List.filter_sublist, fun f member => ?_⟩
  by_cases named : f.1 ∈ names
  · apply Or.inr
    apply mem_of_lookup?
    rw [← same f.1 named]
    exact lookup?_of_mem keys member
  · exact .inl (List.mem_filter.2 ⟨member, decide_eq_true named⟩)

theorem distinct (abridges : Abridges standard fields kept) (distinct : Datum.Distinct fields) :
    Datum.Distinct kept :=
  ⟨(abridges.sublist.map Prod.fst).nodup distinct.names, fun name inner member =>
    distinct.inner name inner (abridges.sublist.subset member)⟩

section
variable (abridges : Abridges standard fields kept) (keys : (fields.map Prod.fst).Nodup)
  (alike : ∀ name, Option.Rel Datum.Alike (lookup? name kept) (lookup? name found))
include abridges keys alike

/-- A field reads as it did before others were left out, and by default if it was left out. -/
theorem optional_eq {α : Type} {name : String} {d : Datum} (member : (name, d) ∈ fields)
    {read : Datum → Option α} {value byDefault : α}
    (means : ∀ e, d.Alike e → read e = some value)
    (defaults : (name, d) ∈ standard → value = byDefault) :
    Datum.Fields.optional ⟨found⟩ name byDefault read = some value := by
  have keysKept := (abridges.sublist.map Prod.fst).nodup keys
  have there := alike name
  by_cases named : name ∈ kept.map Prod.fst
  · obtain ⟨f, present, rfl⟩ := List.mem_map.1 named
    have other := lookup?_of_mem keys (abridges.sublist.subset present)
    obtain rfl : f.2 = d := Option.some.inj (other.symm.trans (lookup?_of_mem keys member))
    rw [lookup?_of_mem keysKept present] at there
    exact Datum.Fields.optional_of_some there means
  · obtain present | out := abridges.leftOut _ member
    · exact absurd (List.mem_map_of_mem present) named
    · rw [lookup?_of_not_mem named] at there
      rw [defaults out]
      exact Datum.Fields.optional_of_none there

omit keys in
theorem optional_of_absent {α : Type} {name : String} (absent : name ∉ fields.map Prod.fst)
    (read : Datum → Option α) (byDefault : α) :
    Datum.Fields.optional ⟨found⟩ name byDefault read = some byDefault := by
  have there := alike name
  rw [lookup?_of_not_mem fun member => absent ((abridges.sublist.map Prod.fst).subset member)]
    at there
  exact Datum.Fields.optional_of_none there

/-- A field that is always written. -/
theorem optional_written {α : Type} (standardKeys : (standard.map Prod.fst).Nodup) {name : String}
    {read : Datum → Option α} (write : α → Datum) {value byDefault : α}
    (scalar : (write value).IsScalar) (reads : read (write value) = some value)
    (readsDefault : read (write byDefault) = some byDefault)
    (member : (name, write value) ∈ fields) (memberDefault : (name, write byDefault) ∈ standard) :
    Datum.Fields.optional ⟨found⟩ name byDefault read = some value := by
  apply abridges.optional_eq keys alike member
  · intro e same
    rw [same.eq_of_isScalar scalar, reads]
  · intro inStandard
    have same : write value = write byDefault := Option.some.inj
      ((lookup?_of_mem standardKeys inStandard).symm.trans
        (lookup?_of_mem standardKeys memberDefault))
    rw [same, readsDefault] at reads
    exact (Option.some.inj reads).symm

theorem optional_ofNat (standardKeys : (standard.map Prod.fst).Nodup) (name : String)
    (n byDefault : Nat) (member : (name, Datum.ofNat n) ∈ fields)
    (memberDefault : (name, Datum.ofNat byDefault) ∈ standard) (fits : n ≤ maxWord)
    (defaultFits : byDefault ≤ maxWord) :
    Datum.Fields.optional ⟨found⟩ name byDefault (·.toNat? maxWord) = some n :=
  abridges.optional_written keys alike standardKeys Datum.ofNat trivial (Datum.toNat?_ofNat fits)
    (Datum.toNat?_ofNat defaultFits) member memberDefault

/-- A field that is written only where it has a value. -/
theorem optional_fieldOf {α : Type} {name : String} {read : Datum → Option (Option α)}
    (write : α → Datum) {value : Option α} (scalar : ∀ a, (write a).IsScalar)
    (reads : ∀ a, value = some a → read (write a) = some (some a))
    (member : ∀ a, value = some a → (name, write a) ∈ fields)
    (absent : value = none → name ∉ fields.map Prod.fst)
    (notStandard : name ∉ standard.map Prod.fst) :
    Datum.Fields.optional ⟨found⟩ name none read = some value := by
  cases value with
  | none => exact abridges.optional_of_absent alike (absent rfl) read none
  | some a =>
    apply abridges.optional_eq keys alike (member a rfl)
    · intro e same
      rw [same.eq_of_isScalar (scalar a), reads a rfl]
    · exact fun inStandard => absurd (List.mem_map_of_mem inStandard) notStandard

end

end Abridges

/-- Records that are read from their fields are the same if these are. -/
theorem eq_of_fields {α : Type} {toFields : α → List (String × Datum)} {read : Datum → Option α}
    {a b : α} (same : toFields a = toFields b) (reads : read (.table (toFields a)) = some a)
    (readsOther : read (.table (toFields b)) = some b) : a = b := by
  rw [same] at reads
  exact Option.some.inj (reads.symm.trans readsOther)

namespace Labels

theorem nodup_keys (labels : Labels) : (labels.entries.map Prod.fst).Nodup := by
  rw [List.nodup_iff_pairwise_ne, List.pairwise_map]
  exact labels.sorted.imp fun before same => String.ne_of_lt before same

theorem nodup_entries (labels : Labels) : labels.entries.Nodup :=
  labels.sorted.imp fun before same => String.ne_of_lt before (congrArg Prod.fst same)

theorem eq_of_entries {labels others : Labels} (same : labels.entries = others.entries) :
    labels = others := by
  obtain ⟨entries, sorted⟩ := labels
  obtain rfl : entries = others.entries := same
  rfl

/-- Labels are what they say under each key. -/
theorem eq_of_get? {labels others : Labels} (same : ∀ key, labels.get? key = others.get? key) :
    labels = others := by
  have members : ∀ e, e ∈ labels.entries ↔ e ∈ others.entries := by
    rintro ⟨key, value⟩
    have there : lookup? key labels.entries = lookup? key others.entries := same key
    constructor
    · intro member
      exact mem_of_lookup? (there.symm.trans (lookup?_of_mem labels.nodup_keys member))
    · intro member
      exact mem_of_lookup? (there.trans (lookup?_of_mem others.nodup_keys member))
  have perm : labels.entries.Perm others.entries :=
    (List.perm_ext_iff_of_nodup labels.nodup_entries others.nodup_entries).2 members
  apply eq_of_entries
  exact perm.eq_of_pairwise (fun _ _ _ _ before after => (String.lt_asymm before after).elim)
    labels.sorted others.sorted

theorem get?_ofList {pairs : List (String × String)} (keys : (pairs.map Prod.fst).Nodup)
    (key : String) : (ofList pairs).get? key = lookup? key pairs := by
  have step (start : Labels) : (pairs.foldl (fun made p => made.insert p.1 p.2) start).get? key =
      (lookup? key pairs).or (start.get? key) := by
    induction pairs generalizing start with
    | nil => rfl
    | cons p pairs ih =>
      obtain ⟨new, keys⟩ := List.nodup_cons.1 keys
      rw [List.foldl_cons, ih keys, get?_insert, lookup?_cons]
      split
      next here =>
        rw [← here, lookup?_of_not_mem new]
        rfl
      · rfl
  have started := step .empty
  rwa [get?_empty, Option.or_none] at started

theorem exists_texts {found : List (String × Datum)} (texts : ∀ f ∈ found, ∃ s, f.2 = .text s) :
    ∃ pairs : List (String × String), found = (pairs.map fun p => (p.1, .text p.2)) ∧
      Datum.toLabels? (.table found) = some (ofList pairs) := by
  have read : ∃ pairs : List (String × String), found = (pairs.map fun p => (p.1, .text p.2)) ∧
      found.mapM (fun f => f.2.toText?.map fun value => (f.1, value)) = some pairs := by
    induction found with
    | nil => exact ⟨[], rfl, rfl⟩
    | cons f found ih =>
      obtain ⟨⟨s, text⟩, texts⟩ := List.forall_mem_cons.1 texts
      obtain ⟨pairs, rfl, read⟩ := ih texts
      refine ⟨(f.1, s) :: pairs, ?_, ?_⟩
      · rw [List.map_cons, ← text]
      · rw [List.mapM_cons, read, text]
        rfl
  obtain ⟨pairs, same, read⟩ := read
  refine ⟨pairs, same, ?_⟩
  rw [Datum.toLabels?, read]
  rfl

/-- Labels are read from data that say what they say. -/
theorem toLabels?_of_alike (labels : Labels) {d : Datum} (alike : (Datum.ofLabels labels).Alike d) :
    d.toLabels? = some labels := by
  obtain ⟨found, rfl, names, there⟩ := alike.fields_found
  have under (key : String) : lookup? key found = (labels.get? key).map .text := by
    have pair := there key
    rw [lookup?_map] at pair
    unfold get?
    generalize lookup? key found = held at pair
    generalize lookup? key labels.entries = value at pair
    cases value with
    | none =>
      cases pair
      rfl
    | some value =>
      cases pair with
      | some same => exact congrArg some (same.eq_of_isScalar trivial)
  have keys : (found.map Prod.fst).Nodup := by
    rw [names.nodup_iff, List.map_map]
    exact labels.nodup_keys
  have texts : ∀ f ∈ found, ∃ s, f.2 = .text s := by
    intro f member
    have present := under f.1
    rw [lookup?_of_mem keys member] at present
    obtain ⟨s, -, text⟩ := Option.map_eq_some_iff.1 present.symm
    exact ⟨s, text.symm⟩
  obtain ⟨pairs, rfl, read⟩ := exists_texts texts
  rw [read]
  apply congrArg some
  apply eq_of_get?
  intro key
  have pairKeys : (pairs.map Prod.fst).Nodup := by
    rw [List.map_map] at keys
    exact keys
  have same := under key
  rw [lookup?_map, ← get?_ofList pairKeys] at same
  exact Option.map_injective (fun _ _ => Datum.text.inj) same

end Labels

namespace PoolConfig

/-- The numbers among the settings of a pool. -/
def numbers (config : PoolConfig) : List Nat :=
  [config.size, config.defaultTimeoutSecs, config.maxAgeMinutes, config.pingIntervalSecs]

/-- The strings that whoever sets up a pool is free to choose. -/
def strings (config : PoolConfig) : List String :=
  config.role.toList ++ config.labels.entries.map Prod.snd

theorem keys_toFields (config : PoolConfig) : (config.toFields.map Prod.fst).Nodup := by
  unfold toFields
  cases config.role <;> cases config.labels.isEmpty <;> simp [Datum.fieldOf]

theorem toKind?_toDatum (kind : PoolKind) :
    PoolKind.ofDatum? Datum.files kind.toDatum = some kind := by
  cases kind <;> rfl

/-- The settings of a pool are read from data that say what is left of their fields. -/
theorem ofDatum?_abridged {config : PoolConfig} {kept : List (String × Datum)} {d : Datum}
    (abridges : Abridges standard.toFields config.toFields kept)
    (small : ∀ n ∈ config.numbers, n ≤ maxWord) (alike : (Datum.table kept).Alike d) :
    PoolConfig.ofDatum? Datum.files d = some config := by
  obtain ⟨found, rfl, -, there⟩ := alike.fields_found
  have keys := config.keys_toFields
  have standardKeys := standard.keys_toFields
  have number := abridges.optional_ofNat keys there standardKeys
  have kind : Datum.Fields.optional ⟨found⟩ "kind" standard.kind
      (PoolKind.ofDatum? Datum.files) = some config.kind :=
    abridges.optional_written keys there standardKeys PoolKind.toDatum trivial (toKind?_toDatum _)
      (toKind?_toDatum _) (by simp [toFields]) (by simp [toFields])
  have size := number "size" config.size standard.size
    (by simp [toFields]) (by simp [toFields]) (small _ (by simp [numbers])) (by decide)
  have timeout := number "default_timeout_secs" config.defaultTimeoutSecs
    standard.defaultTimeoutSecs (by simp [toFields]) (by simp [toFields])
    (small _ (by simp [numbers])) (by decide)
  have age := number "max_age_minutes" config.maxAgeMinutes standard.maxAgeMinutes
    (by simp [toFields]) (by simp [toFields]) (small _ (by simp [numbers])) (by decide)
  have interval := number "ping_interval_secs" config.pingIntervalSecs standard.pingIntervalSecs
    (by simp [toFields]) (by simp [toFields]) (small _ (by simp [numbers])) (by decide)
  have role : Datum.Fields.optional ⟨found⟩ "database_role" standard.role
      (Datum.toOption? Datum.toText?) = some config.role := by
    apply abridges.optional_fieldOf keys there Datum.text (fun _ => trivial)
    · exact fun _ _ => rfl
    · intro role named
      simp [toFields, named, Datum.fieldOf]
    · intro unnamed
      cases empty : config.labels.isEmpty <;> simp [toFields, unnamed, Datum.fieldOf, empty]
    · decide
  have labels : Datum.Fields.optional ⟨found⟩ "labels" standard.labels
      Datum.toLabels? = some config.labels := by
    cases empty : config.labels.isEmpty with
    | true =>
      have same : config.labels = standard.labels :=
        Labels.eq_of_entries (List.isEmpty_iff.1 empty)
      rw [same]
      apply abridges.optional_of_absent there
      cases named : config.role <;> simp [toFields, Datum.fieldOf, empty, named]
    | false =>
      apply abridges.optional_eq keys there (d := Datum.ofLabels config.labels)
      · simp [toFields, empty]
      · exact fun _ => config.labels.toLabels?_of_alike
      · have notStandard : "labels" ∉ standard.toFields.map Prod.fst := by decide
        exact fun inStandard => absurd (List.mem_map_of_mem inStandard) notStandard
  simp only [ofDatum?, Datum.toFields?, kind, size, timeout, age, interval, role, labels, bind,
    Option.bind]

/-- Settings that are written as the standard ones are the standard ones. -/
theorem eq_standard {config : PoolConfig} (same : config.toFields = standard.toFields)
    (small : ∀ n ∈ config.numbers, n ≤ maxWord) : config = standard := by
  apply eq_of_fields same
  · exact ofDatum?_abridged (.refl _ config.toFields) small (.same _)
  · exact ofDatum?_abridged (.refl _ standard.toFields) (by decide) (.same _)

end PoolConfig

namespace RetryConfig

/-- The numbers among the settings of an executor. -/
def numbers (config : RetryConfig) : List Nat :=
  config.timeoutSecs :: config.defaultRetryDelayMs.toList ++
    [config.initialBackoffMs, config.maxBackoffMs]

theorem keys_toFields (config : RetryConfig) : (config.toFields.map Prod.fst).Nodup := by
  unfold toFields
  cases config.defaultRetryDelayMs <;> simp [Datum.fieldOf]

/-- The settings of an executor are read from data that say what is left of their fields. -/
theorem ofDatum?_abridged {config : RetryConfig} {kept : List (String × Datum)} {d : Datum}
    (abridges : Abridges standard.toFields config.toFields kept)
    (small : ∀ n ∈ config.numbers, n ≤ maxWord) (alike : (Datum.table kept).Alike d) :
    RetryConfig.ofDatum? Datum.files d = some config := by
  obtain ⟨found, rfl, -, there⟩ := alike.fields_found
  have keys := config.keys_toFields
  have standardKeys := standard.keys_toFields
  have number := abridges.optional_ofNat keys there standardKeys
  have timeout := number "timeout_secs" config.timeoutSecs standard.timeoutSecs
    (by simp [toFields]) (by simp [toFields]) (small _ (by simp [numbers])) (by decide)
  have initial := number "initial_backoff_ms" config.initialBackoffMs standard.initialBackoffMs
    (by simp [toFields]) (by simp [toFields]) (small _ (by simp [numbers])) (by decide)
  have longest := number "max_backoff_ms" config.maxBackoffMs standard.maxBackoffMs
    (by simp [toFields]) (by simp [toFields]) (small _ (by simp [numbers])) (by decide)
  have jitter : Datum.Fields.optional ⟨found⟩ "jitter" standard.jitter Datum.toBool? =
      some config.jitter :=
    abridges.optional_written keys there standardKeys Datum.bool trivial rfl rfl
      (by simp [toFields]) (by simp [toFields])
  have delay : Datum.Fields.optional ⟨found⟩ "default_retry_delay_ms"
      standard.defaultRetryDelayMs (Datum.toOption? (·.toNat? maxWord)) =
        some config.defaultRetryDelayMs := by
    apply abridges.optional_fieldOf keys there Datum.ofNat (fun _ => trivial)
    · intro delay named
      have fits : delay ≤ maxWord := small delay (by simp [numbers, named])
      exact congrArg (Option.map some) (Datum.toNat?_ofNat fits)
    · intro delay named
      simp [toFields, named, Datum.fieldOf]
    · intro unnamed
      simp [toFields, unnamed, Datum.fieldOf]
    · decide
  simp only [ofDatum?, Datum.toFields?, timeout, initial, longest, jitter, delay, bind, Option.bind]

theorem eq_standard {config : RetryConfig} (same : config.toFields = standard.toFields)
    (small : ∀ n ∈ config.numbers, n ≤ maxWord) : config = standard := by
  apply eq_of_fields same
  · exact ofDatum?_abridged (.refl _ config.toFields) small (.same _)
  · exact ofDatum?_abridged (.refl _ standard.toFields) (by decide) (.same _)

end RetryConfig

end SessionPooling
