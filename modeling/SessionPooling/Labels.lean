/-! Labels: a finite map from strings to strings. The entries are kept in the order of
their keys, so two maps that agree on every key are equal. -/
namespace SessionPooling

def lookup? [DecidableEq κ] (key : κ) : List (κ × ν) → Option ν
  | [] => none
  | (k, v) :: rest => if k = key then some v else lookup? key rest

@[simp] theorem lookup?_nil [DecidableEq κ] (key : κ) :
    lookup? key ([] : List (κ × ν)) = none := rfl

@[simp] theorem lookup?_cons [DecidableEq κ] (key k : κ) (v : ν) (rest : List (κ × ν)) :
    lookup? key ((k, v) :: rest) = if k = key then some v else lookup? key rest := rfl

theorem lookup?_append [DecidableEq κ] (key : κ) (entries more : List (κ × ν)) :
    lookup? key (entries ++ more) = (lookup? key entries).or (lookup? key more) := by
  induction entries with
  | nil => rfl
  | cons e entries ih =>
    rw [List.cons_append, lookup?_cons, lookup?_cons, ih]
    split <;> rfl

theorem lookup?_filter_ne [DecidableEq κ] (key : κ) (dropped : Option κ)
    (entries : List (κ × ν)) :
    lookup? key (entries.filter fun e => dropped ≠ some e.1) =
      if dropped = some key then none else lookup? key entries := by
  induction entries with
  | nil => simp
  | cons e entries ih =>
    by_cases goes : dropped = some e.1
    · rw [List.filter_cons_of_neg (by simpa using goes), ih, lookup?_cons]
      split
      · rfl
      next stays => rw [if_neg fun same : e.1 = key => stays (same ▸ goes)]
    · rw [List.filter_cons_of_pos (by simpa using goes), lookup?_cons, lookup?_cons, ih]
      split
      next here => rw [if_neg (here ▸ goes)]
      · rfl

theorem mem_of_lookup? [DecidableEq κ] {key : κ} {value : ν} {entries : List (κ × ν)}
    (found : lookup? key entries = some value) : (key, value) ∈ entries := by
  induction entries with
  | nil => cases found
  | cons e entries ih =>
    rw [lookup?_cons] at found
    split at found
    next here =>
      cases here
      cases found
      exact List.mem_cons_self
    · exact List.mem_cons_of_mem _ (ih found)

/-- Sets a key in a list of pairs sorted by key. -/
def insertEntry (key value : String) : List (String × String) → List (String × String)
  | [] => [(key, value)]
  | (k, v) :: rest =>
    if key < k then (key, value) :: (k, v) :: rest
    else if k < key then (k, v) :: insertEntry key value rest
    else (key, value) :: rest

/-- After setting a key its value is found there, and the other keys have what they had. -/
theorem lookup?_insertEntry (key value sought : String) (entries : List (String × String)) :
    lookup? sought (insertEntry key value entries) =
      if key = sought then some value else lookup? sought entries := by
  induction entries with
  | nil => simp [insertEntry]
  | cons e rest ih =>
    obtain ⟨k, v⟩ := e
    unfold insertEntry
    split
    case isTrue before => simp
    case isFalse notBefore =>
      split
      case isTrue behind =>
        have apart : k ≠ key := fun same => String.lt_irrefl key (same ▸ behind)
        by_cases here : k = sought
        · subst here
          simp [apart.symm]
        · simp [here, ih]
      case isFalse notBehind =>
        have same : key = k :=
          String.le_antisymm (String.not_lt.1 notBehind) (String.not_lt.1 notBefore)
        subst same
        by_cases here : key = sought <;> simp [here]

def Precedes (key : String) (entries : List (String × String)) : Prop :=
  ∀ e ∈ entries, key < e.1

theorem Precedes.insertEntry (first : Precedes k entries) (below : k < key) :
    Precedes k (insertEntry key value entries) := by
  induction entries with
  | nil => simpa [SessionPooling.insertEntry, Precedes] using below
  | cons e rest ih =>
    obtain ⟨k', v'⟩ := e
    have tail : Precedes k rest := fun e he => first e (List.mem_cons_of_mem _ he)
    have head : k < k' := first (k', v') List.mem_cons_self
    unfold SessionPooling.insertEntry
    split
    · intro e he
      rcases List.mem_cons.1 he with rfl | he
      · exact below
      · exact first e he
    · split
      · intro e he
        rcases List.mem_cons.1 he with rfl | he
        · exact head
        · exact ih tail e he
      · intro e he
        rcases List.mem_cons.1 he with rfl | he
        · exact below
        · exact tail e he

theorem insertEntry_sorted (sorted : entries.Pairwise fun a b : String × String => a.1 < b.1) :
    (insertEntry key value entries).Pairwise fun a b => a.1 < b.1 := by
  induction entries with
  | nil => simp [insertEntry]
  | cons e rest ih =>
    obtain ⟨k, v⟩ := e
    obtain ⟨first, tail⟩ := List.pairwise_cons.1 sorted
    unfold insertEntry
    split
    case isTrue before =>
      refine List.pairwise_cons.2 ⟨fun e he => ?_, sorted⟩
      rcases List.mem_cons.1 he with rfl | he
      · exact before
      · exact String.lt_trans before (first e he)
    case isFalse notBefore =>
      split
      case isTrue behind =>
        exact List.pairwise_cons.2 ⟨Precedes.insertEntry first behind, ih tail⟩
      case isFalse notBehind =>
        have same : key = k :=
          String.le_antisymm (String.not_lt.1 notBehind) (String.not_lt.1 notBefore)
        subst same
        exact List.pairwise_cons.2 ⟨first, tail⟩

structure Labels where
  entries : List (String × String)
  sorted : entries.Pairwise fun a b => a.1 < b.1
deriving DecidableEq

namespace Labels

def empty : Labels := ⟨[], List.Pairwise.nil⟩

/-- Sets `key` to `value`, in place of what it was before. -/
def insert (labels : Labels) (key value : String) : Labels :=
  ⟨insertEntry key value labels.entries, insertEntry_sorted labels.sorted⟩

/-- Of two pairs with one key the later counts. -/
def ofList (pairs : List (String × String)) : Labels :=
  pairs.foldl (fun labels p => labels.insert p.1 p.2) empty

def get? (labels : Labels) (key : String) : Option String := lookup? key labels.entries

def isEmpty (labels : Labels) : Bool := labels.entries.isEmpty

@[simp] theorem get?_empty (key : String) : empty.get? key = none := rfl

theorem get?_insert (labels : Labels) (key value sought : String) :
    (labels.insert key value).get? sought =
      if key = sought then some value else labels.get? sought :=
  lookup?_insertEntry key value sought labels.entries

end Labels
end SessionPooling
