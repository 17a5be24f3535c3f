import Mathlib.Data.List.Forall2
import Mathlib.Data.List.Induction
import TaskScript.Registry
import TaskScript.SortedMap

/-!
# What a registry knows

A registry is a list that is searched from the front. A registration takes out the entries that it
replaces and goes to the end, so what a search finds depends on no two entries having tags that are
the same but for case. The entries of a registry are then those of a map from tags with their
letters lowered, and each registration binds a key of that map.

* `foldCase_eq_iff`: two tags are the same but for case, letter by letter.
* `Registry.Refines`: the entries of a registry are those of a map.
* `Registry.Refines.register`, `Registry.refines_registerAll`: one registration binds its tag, and
  so do all of them in turn.
* `Registry.resolve_finds_last_registration`: a search finds the last registration of the tag.
-/

namespace TaskScript

/-! ## Tags that are the same but for case -/

/-- The same character, or the same letter of `A` to `Z` in the other case. -/
def SameLetter (c d : Char) : Prop :=
  c = d ∨ 'A' ≤ c ∧ c ≤ 'Z' ∧ d.toNat = c.toNat + 32 ∨ 'A' ≤ d ∧ d ≤ 'Z' ∧ c.toNat = d.toNat + 32

/-- The texts have the same letters one by one, but for the case of `A` to `Z`. -/
def SameButCase (a b : String) : Prop := List.Forall₂ SameLetter a.toList b.toList

theorem toNat_toLower (c : Char) :
    c.toLower.toNat = if 'A' ≤ c ∧ c ≤ 'Z' then c.toNat + 32 else c.toNat := by
  unfold Char.toLower
  by_cases upper : 'A' ≤ c ∧ c ≤ 'Z'
  · have top : c.toNat ≤ 90 := upper.2
    rw [if_pos upper, dif_pos ⟨upper.1, upper.2⟩]
    show (c.val + ('a'.val - 'A'.val)).toNat = c.toNat + 32
    have sum := UInt32.toNat_add c.val ('a'.val - 'A'.val)
    have step : ('a'.val - 'A'.val).toNat = 32 := by decide
    have value : c.val.toNat = c.toNat := rfl
    omega
  · rw [if_neg upper, dif_neg fun both => upper ⟨both.1, both.2⟩]

theorem toLower_eq_iff {c d : Char} : c.toLower = d.toLower ↔ SameLetter c d := by
  have bottom (x : Char) : 'A' ≤ x ↔ 65 ≤ x.toNat := Iff.rfl
  have top (x : Char) : x ≤ 'Z' ↔ x.toNat ≤ 90 := Iff.rfl
  rw [← Char.toNat_inj, toNat_toLower, toNat_toLower, SameLetter, ← Char.toNat_inj]
  simp only [bottom, top]
  split <;> split <;> omega

/-- Lowering the letters makes two texts equal just if they are the same but for case. -/
theorem foldCase_eq_iff {a b : String} : foldCase a = foldCase b ↔ SameButCase a b := by
  unfold foldCase SameButCase
  rw [String.ofList_inj, ← List.forall₂_eq_eq_eq, List.forall₂_map_left_iff,
    List.forall₂_map_right_iff]
  simp only [toLower_eq_iff]

instance decidableSameButCase (a b : String) : Decidable (SameButCase a b) :=
  decidable_of_iff _ foldCase_eq_iff

-- The Kelvin sign is no letter of `A` to `Z`, though elsewhere it is lowered to one.
example : SameButCase "Task_Ä" "tASK_Ä" ∧ ¬SameButCase "Ä" "ä" ∧ ¬SameButCase "\u212a" "k" := by
  decide

namespace Registry

theorem sameTag_iff {a b : String} : sameTag a b = true ↔ SameButCase a b := by
  rw [sameTag, decide_eq_true_iff, foldCase_eq_iff]

/-! ## Registrations -/

/-- Registers tags one after the other. -/
def registerAll (registry : Registry) (calls : List (String × Domain)) : Registry :=
  calls.foldl (fun known call => known.register call.1 call.2) registry

/-- The registries to start from. -/
inductive Base where
  | empty
  | standard

namespace Base

/-- The registry itself. -/
def registry : Base → Registry
  | empty => .empty
  | standard => .standard

/-- The registrations that it comes with. -/
def past : Base → List (String × Domain)
  | empty => []
  | standard => [("quantum_operation", .quantum), ("blockchain_transaction", .ledger)]

theorem registerAll_registry (base : Base) (calls : List (String × Domain)) :
    base.registry.registerAll calls = Registry.empty.registerAll (base.past ++ calls) := by
  cases base with
  | empty | standard => rfl

end Base

/-- The map in which each registration in turn binds its tag, with the letters lowered. -/
def mapOf (calls : List (String × Domain)) : SortedMap String Domain :=
  calls.foldl (fun map call => map.insert (foldCase call.1) call.2) .empty

theorem mapOf_append (calls : List (String × Domain)) (call : String × Domain) :
    mapOf (calls ++ [call]) = (mapOf calls).insert (foldCase call.1) call.2 := by
  simp [mapOf]

/-- Of several registrations under one key the last one counts. -/
theorem find?_mapOf (calls : List (String × Domain)) (key : String) :
    (mapOf calls).find? key = (calls.reverse.find? (foldCase ·.1 = key)).map (·.2) := by
  induction calls using List.reverseRecOn with
  | nil => rfl
  | append_singleton calls call ih =>
    rw [mapOf_append, SortedMap.find?_insert, ih, List.reverse_append]
    by_cases same : foldCase call.1 = key
    · simp [same]
    · simp [same, Ne.symm same]

theorem find?_mapOf_eq_some_iff {calls : List (String × Domain)} {tag : String} {domain : Domain} :
    (mapOf calls).find? (foldCase tag) = some domain ↔
      ∃ earlier known later, calls = earlier ++ (known, domain) :: later ∧ SameButCase known tag ∧
        ∀ call ∈ later, ¬SameButCase call.1 tag := by
  rw [find?_mapOf]
  constructor
  · intro found
    obtain ⟨⟨known, _⟩, isLast, rfl⟩ := Option.map_eq_some_iff.mp found
    obtain ⟨same, later, earlier, split, others⟩ := List.find?_eq_some_iff_append.mp isLast
    refine ⟨earlier.reverse, known, later.reverse, ?_, ?_, ?_⟩
    · simpa using congrArg List.reverse split
    · simpa [foldCase_eq_iff] using same
    · intro call member
      simpa [foldCase_eq_iff] using others call (List.mem_reverse.mp member)
  · rintro ⟨earlier, known, later, rfl, same, others⟩
    apply Option.map_eq_some_iff.mpr
    refine ⟨(known, domain), List.find?_eq_some_iff_append.mpr ⟨?_, later.reverse, earlier.reverse,
      ?_, ?_⟩, rfl⟩
    · simpa [foldCase_eq_iff] using same
    · simp
    · intro call member
      simpa [foldCase_eq_iff] using others call (List.mem_reverse.mp member)

theorem find?_mapOf_eq_none_iff {calls : List (String × Domain)} {tag : String} :
    (mapOf calls).find? (foldCase tag) = none ↔ ∀ call ∈ calls, ¬SameButCase call.1 tag := by
  rw [find?_mapOf, Option.map_eq_none_iff, List.find?_eq_none]
  simp [foldCase_eq_iff]

/-! ## A registry as a map -/

/-- The entries of the registry are those of the map, but for their order and the case of tags. -/
def Refines (registry : Registry) (map : SortedMap String Domain) : Prop :=
  (registry.entries.map fun entry => (foldCase entry.1, entry.2)).Perm map.entries

namespace Refines

variable {registry : Registry} {map : SortedMap String Domain}

/-- A registration binds its tag. -/
theorem register (refines : registry.Refines map) (tag : String) (domain : Domain) :
    (registry.register tag domain).Refines (map.insert (foldCase tag) domain) := by
  have kept : ((registry.entries.filter fun entry => !sameTag entry.1 tag).map
      fun entry => (foldCase entry.1, entry.2)).Perm (map.erase (foldCase tag)).entries := by
    have filtered := refines.filter (·.1 ≠ foldCase tag)
    rw [List.filter_map] at filtered
    simpa [sameTag, Function.comp_def, SortedMap.erase] using filtered
  unfold Refines
  rw [Registry.register, List.map_append]
  refine (kept.append_right _).trans ?_
  exact (List.perm_append_singleton _ _).trans (map.perm_insert_erase (foldCase tag) domain).symm

/-- No two entries have the same key, since those of a map have not. -/
theorem distinct (refines : registry.Refines map) :
    registry.entries.Pairwise fun a b => ¬SameButCase a.1 b.1 := by
  have keys : map.entries.Pairwise fun a b => a.1 ≠ b.1 :=
    map.sorted.imp fun before => (SortedMap.ne_of_before before).symm
  have folded := (refines.pairwise_iff fun different => different.symm).mpr keys
  rw [List.pairwise_map] at folded
  simpa [foldCase_eq_iff] using folded

theorem mem_entries_iff (refines : registry.Refines map) {tag : String} {domain : Domain} :
    (foldCase tag, domain) ∈ map.entries ↔
      ∃ known, (known, domain) ∈ registry.entries ∧ SameButCase known tag := by
  rw [← List.Perm.mem_iff refines]
  simp [foldCase_eq_iff]

/-- A search finds what the key of the tag is bound to. -/
theorem resolve_eq (refines : registry.Refines map) (tag : String) :
    registry.resolve tag = map.find? (foldCase tag) := by
  unfold resolve
  cases found : registry.entries.find? fun entry => sameTag entry.1 tag with
  | none =>
    have absent := List.find?_eq_none.mp found
    cases bound : map.find? (foldCase tag) with
    | none => rfl
    | some domain =>
      obtain ⟨known, member, same⟩ :=
        refines.mem_entries_iff.mp (SortedMap.find?_eq_some_iff.mp bound)
      exact absurd (sameTag_iff.mpr same) (absent (known, domain) member)
  | some entry =>
    have same : sameTag entry.1 tag = true := by simpa using List.find?_some found
    have bound : (foldCase tag, entry.2) ∈ map.entries :=
      refines.mem_entries_iff.mpr
        ⟨entry.1, List.mem_of_find?_eq_some found, sameTag_iff.mp same⟩
    exact (SortedMap.find?_eq_some_iff.mpr bound).symm

end Refines

theorem refines_empty : Registry.empty.Refines .empty := List.Perm.refl []

theorem refines_registerAll (calls : List (String × Domain)) :
    (Registry.empty.registerAll calls).Refines (mapOf calls) := by
  induction calls using List.reverseRecOn with
  | nil => exact refines_empty
  | append_singleton calls call ih =>
    rw [mapOf_append]
    have last : Registry.empty.registerAll (calls ++ [call]) =
        (Registry.empty.registerAll calls).register call.1 call.2 := by
      simp [registerAll]
    rw [last]
    exact ih.register call.1 call.2

/-- After any registrations on top of one of the registries to start from, a search for a tag gives
the domain of the last registration, those of the start included, whose tag is the same but for the
case of `A` to `Z`, and nothing if there is none. No two entries have tags that are the same in this
sense. So the registry is the map in which each registration binds its tag with the letters
lowered. -/
theorem resolve_finds_last_registration (base : Base) (calls : List (String × Domain)) :
    let registry := base.registry.registerAll calls
    let history := base.past ++ calls
    (∀ tag domain, registry.resolve tag = some domain ↔
      ∃ earlier known later, history = earlier ++ (known, domain) :: later ∧
        SameButCase known tag ∧ ∀ call ∈ later, ¬SameButCase call.1 tag) ∧
    (∀ tag, registry.resolve tag = none ↔ ∀ call ∈ history, ¬SameButCase call.1 tag) ∧
    registry.entries.Pairwise (fun a b => ¬SameButCase a.1 b.1) ∧
    registry.Refines (mapOf history) ∧
    ∀ tag, registry.resolve tag = (mapOf history).find? (foldCase tag) := by
  intro registry history
  have refines : registry.Refines (mapOf history) := by
    show (base.registry.registerAll calls).Refines _
    rw [base.registerAll_registry]
    exact refines_registerAll history
  refine ⟨?_, ?_, refines.distinct, refines, refines.resolve_eq⟩
  · intro tag domain
    rw [refines.resolve_eq, find?_mapOf_eq_some_iff]
  · intro tag
    rw [refines.resolve_eq, find?_mapOf_eq_none_iff]

end Registry

end TaskScript
