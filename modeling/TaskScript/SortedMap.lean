/-!
# Sorted maps

Finite maps as lists of entries in strictly increasing order of their keys. The order is part of the
type, so a key has one value, two maps with the same entries are equal, and a map is listed in the
order in which it is shown.

`find?_insert` and `find?_erase` say what the operations do to a look-up, `perm_insert`,
`perm_insert_erase` and `perm_erase` what they do to the entries.
-/

namespace TaskScript

/-- A finite map, listed by key. -/
structure SortedMap (κ ν : Type) [LT κ] where
  entries : List (κ × ν)
  sorted : entries.Pairwise (fun a b => a.1 < b.1)

namespace SortedMap

variable {κ ν : Type} [LT κ]

theorem eq_of_entries {m n : SortedMap κ ν} (same : m.entries = n.entries) : m = n := by
  cases m
  cases n
  cases same
  rfl

instance [DecidableEq κ] [DecidableEq ν] : DecidableEq (SortedMap κ ν) := fun _ _ =>
  decidable_of_decidable_of_iff ⟨eq_of_entries, congrArg entries⟩

/-- The map without entries. -/
def empty : SortedMap κ ν := ⟨[], List.Pairwise.nil⟩

/-- The number of entries. -/
def size (m : SortedMap κ ν) : Nat := m.entries.length

/-- The values, by key. -/
def values (m : SortedMap κ ν) : List ν := m.entries.map (·.2)

theorem ne_of_before [Std.Irrefl (fun a b : κ => a < b)] {key other : κ} (before : key < other) :
    other ≠ key := by
  rintro rfl
  exact Std.Irrefl.irrefl other before

/-! ## Look-up and removal -/

section Lookup

variable [DecidableEq κ]

/-- The value that the key is bound to. -/
def find? (m : SortedMap κ ν) (key : κ) : Option ν :=
  (m.entries.find? (·.1 = key)).map (·.2)

/-- The map without the key. -/
def erase (m : SortedMap κ ν) (key : κ) : SortedMap κ ν :=
  ⟨m.entries.filter (·.1 ≠ key), m.sorted.filter _⟩

/-- Takes a key out of the map. Gives the value that it was bound to. -/
def remove (m : SortedMap κ ν) (key : κ) : Option ν × SortedMap κ ν := (m.find? key, m.erase key)

@[simp] theorem find?_empty (key : κ) : (empty : SortedMap κ ν).find? key = none := rfl

theorem find?_erase (m : SortedMap κ ν) (key k : κ) :
    (m.erase key).find? k = if k = key then none else m.find? k := by
  unfold find? erase
  rw [List.find?_filter]
  split
  case isTrue same =>
    subst same
    rw [List.find?_eq_none.2 (by simp)]
    rfl
  case isFalse different =>
    congr 2
    funext entry
    by_cases found : entry.1 = k
    · simp [found, different]
    · simp [found]

/-- Taking out a key that is not there changes nothing. -/
theorem erase_eq_self {m : SortedMap κ ν} {key : κ} (absent : m.find? key = none) :
    m.erase key = m := by
  have others := List.find?_eq_none.1 (Option.map_eq_none_iff.1 absent)
  apply eq_of_entries
  apply List.filter_eq_self.2
  intro entry member
  simpa using others entry member

variable [Std.Irrefl (fun a b : κ => a < b)]

/-- A key stands in one entry only. -/
theorem perm_filter {key : κ} {value : ν} {entries : List (κ × ν)}
    (sorted : entries.Pairwise (fun a b => a.1 < b.1)) (member : (key, value) ∈ entries) :
    entries.Perm ((key, value) :: entries.filter (·.1 ≠ key)) := by
  induction entries with
  | nil => cases member
  | cons head rest ih =>
    obtain ⟨headFirst, restSorted⟩ := List.pairwise_cons.1 sorted
    rcases List.mem_cons.1 member with rfl | inRest
    · have others : rest.filter (·.1 ≠ key) = rest := by
        apply List.filter_eq_self.2
        intro entry inRest
        exact decide_eq_true (ne_of_before (headFirst entry inRest))
      rw [List.filter_cons_of_neg (by simp), others]
    · have different : head.1 ≠ key := (ne_of_before (headFirst _ inRest)).symm
      rw [List.filter_cons_of_pos (by simpa using different)]
      exact ((ih restSorted inRest).cons head).trans (List.Perm.swap _ _ _)

theorem find?_eq_some_iff {m : SortedMap κ ν} {key : κ} {value : ν} :
    m.find? key = some value ↔ (key, value) ∈ m.entries := by
  unfold find?
  constructor
  · intro found
    obtain ⟨entry, isFirst, rfl⟩ := Option.map_eq_some_iff.1 found
    have same : entry.1 = key := by simpa using List.find?_some isFirst
    subst same
    exact List.mem_of_find?_eq_some isFirst
  · intro member
    -- Whichever entry the look-up meets first has the key, and there is no other with it.
    have alone := perm_filter m.sorted member
    cases isFirst : m.entries.find? (·.1 = key) with
    | none =>
      have absent := List.find?_eq_none.1 isFirst _ member
      simp at absent
    | some entry =>
      have same : entry.1 = key := by simpa using List.find?_some isFirst
      have isEntry := alone.mem_iff.1 (List.mem_of_find?_eq_some isFirst)
      rcases List.mem_cons.1 isEntry with rfl | isOther
      · rfl
      · have other := (List.mem_filter.1 isOther).2
        simp [same] at other

theorem perm_erase {m : SortedMap κ ν} {key : κ} {value : ν} (found : m.find? key = some value) :
    m.entries.Perm ((key, value) :: (m.erase key).entries) :=
  perm_filter m.sorted (find?_eq_some_iff.1 found)

end Lookup

/-! ## Insertion -/

section Insertion

variable [DecidableLT κ] [DecidableEq κ]

/-- Puts an entry in its place, over an entry with the same key. -/
def insertEntry (key : κ) (value : ν) : List (κ × ν) → List (κ × ν)
  | [] => [(key, value)]
  | (k, v) :: rest =>
    if key < k then (key, value) :: (k, v) :: rest
    else if key = k then (key, value) :: rest
    else (k, v) :: insertEntry key value rest

theorem mem_insertEntry {key : κ} {value : ν} {entry : κ × ν} {entries : List (κ × ν)}
    (member : entry ∈ insertEntry key value entries) : entry = (key, value) ∨ entry ∈ entries := by
  induction entries with
  | nil => exact .inl (List.mem_singleton.1 member)
  | cons head rest ih =>
    rw [insertEntry] at member
    split at member
    · exact List.mem_cons.1 member
    split at member
    · rcases List.mem_cons.1 member with rfl | inRest
      · exact .inl rfl
      · exact .inr (List.mem_cons_of_mem _ inRest)
    · rcases List.mem_cons.1 member with rfl | inRest
      · exact .inr List.mem_cons_self
      · exact (ih inRest).imp_right (List.mem_cons_of_mem _)

theorem find?_insertEntry (key k : κ) (value : ν) (entries : List (κ × ν)) :
    ((insertEntry key value entries).find? (·.1 = k)).map (·.2) =
      if k = key then some value else (entries.find? (·.1 = k)).map (·.2) := by
  induction entries with
  | nil =>
    by_cases same : k = key
    · simp [insertEntry, same]
    · simp [insertEntry, same, Ne.symm same]
  | cons head rest ih =>
    rw [insertEntry]
    split
    · by_cases same : k = key
      · simp [same]
      · simp [same, Ne.symm same]
    split
    case isTrue replaced =>
      by_cases same : k = key
      · simp [same]
      · simp [← replaced, same, Ne.symm same]
    case isFalse =>
      by_cases found : head.1 = k
      · have different : k ≠ key := fun same => by simp_all
        simp [found, different]
      · simp only [List.find?_cons, found, decide_false, ih]

theorem perm_insertEntry {key : κ} {value : ν} {entries : List (κ × ν)}
    (absent : ∀ entry ∈ entries, ¬decide (entry.1 = key) = true) :
    (insertEntry key value entries).Perm ((key, value) :: entries) := by
  induction entries with
  | nil => exact .refl _
  | cons head rest ih =>
    rw [insertEntry]
    split
    case isTrue => exact .refl _
    case isFalse =>
      split
      case isTrue same =>
        have different := absent head List.mem_cons_self
        simp [same] at different
      case isFalse =>
        have inRest := ih fun entry member => absent entry (List.mem_cons_of_mem head member)
        exact (inRest.cons head).trans (List.Perm.swap _ _ _)

theorem filter_insertEntry (key : κ) (value : ν) (entries : List (κ × ν)) :
    (insertEntry key value entries).filter (·.1 ≠ key) = entries.filter (·.1 ≠ key) := by
  induction entries with
  | nil => simp [insertEntry]
  | cons head rest ih =>
    rw [insertEntry]
    split
    · simp
    split
    case isTrue same => simp [same]
    case isFalse different => simp only [List.filter_cons, ih]

variable [Std.Trichotomous (fun a b : κ => a < b)]
  [Trans (fun a b : κ => a < b) (fun a b : κ => a < b) (fun a b : κ => a < b)]

theorem insertEntry_sorted (key : κ) (value : ν) {entries : List (κ × ν)}
    (sorted : entries.Pairwise (fun a b => a.1 < b.1)) :
    (insertEntry key value entries).Pairwise (fun a b => a.1 < b.1) := by
  induction entries with
  | nil => exact List.pairwise_singleton _ _
  | cons head rest ih =>
    obtain ⟨headFirst, restSorted⟩ := List.pairwise_cons.1 sorted
    rw [insertEntry]
    split
    case isTrue before =>
      refine List.pairwise_cons.2 ⟨fun entry member => ?_, sorted⟩
      rcases List.mem_cons.1 member with rfl | inRest
      · exact before
      · exact Std.lt_trans before (headFirst entry inRest)
    case isFalse notBefore =>
      split
      case isTrue same =>
        exact List.pairwise_cons.2 ⟨fun entry member => same ▸ headFirst entry member, restSorted⟩
      case isFalse different =>
        have after : head.1 < key :=
          Decidable.byContradiction fun notAfter =>
            different (Std.Trichotomous.trichotomous key head.1 notBefore notAfter)
        refine List.pairwise_cons.2 ⟨fun entry member => ?_, ih restSorted⟩
        rcases mem_insertEntry member with rfl | inRest
        · exact after
        · exact headFirst entry inRest

/-- The map with the key bound to the value. -/
def insert (m : SortedMap κ ν) (key : κ) (value : ν) : SortedMap κ ν :=
  ⟨insertEntry key value m.entries, insertEntry_sorted key value m.sorted⟩

/-- Binds a key to a value. Gives the value that it was bound to before. -/
def put (m : SortedMap κ ν) (key : κ) (value : ν) : Option ν × SortedMap κ ν :=
  (m.find? key, m.insert key value)

theorem find?_insert (m : SortedMap κ ν) (key k : κ) (value : ν) :
    (m.insert key value).find? k = if k = key then some value else m.find? k :=
  find?_insertEntry key k value m.entries

theorem perm_insert {m : SortedMap κ ν} {key : κ} {value : ν} (absent : m.find? key = none) :
    (m.insert key value).entries.Perm ((key, value) :: m.entries) :=
  perm_insertEntry (List.find?_eq_none.1 (Option.map_eq_none_iff.1 absent))

/-- Binding a key takes out what it was bound to. -/
theorem perm_insert_erase [Std.Irrefl (fun a b : κ => a < b)] (m : SortedMap κ ν) (key : κ)
    (value : ν) : (m.insert key value).entries.Perm ((key, value) :: (m.erase key).entries) := by
  have bound : (m.insert key value).find? key = some value := by rw [find?_insert, if_pos rfl]
  have others : (m.insert key value).erase key = m.erase key :=
    eq_of_entries (filter_insertEntry key value m.entries)
  rw [← others]
  exact perm_erase bound

end Insertion

end SortedMap

/-! ## Texts as keys -/

instance SortedMap.textTrichotomous : Std.Trichotomous (fun a b : String => a < b) :=
  ⟨fun _ _ notBefore notAfter => Std.le_antisymm (Std.not_lt.1 notAfter) (Std.not_lt.1 notBefore)⟩

instance SortedMap.textTrans :
    Trans (fun a b : String => a < b) (fun a b : String => a < b) (fun a b : String => a < b) :=
  ⟨Std.lt_trans⟩

end TaskScript
