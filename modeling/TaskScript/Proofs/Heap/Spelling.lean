import TaskScript.Proofs.Heap.History
import TaskScript.Proofs.Text.Numeral

/-!
# Spellings of a handle

Many texts are read as one handle: the mark and the digits may be of either case, a plus sign may
stand before the digits, and they may begin with zeros. Only the number that they stand for must be
an address, however many digits it is written with. A handle is written in one of these spellings,
which is the shortest, and releasing a block goes by the handle and not by its spelling.

* `Handle.Spells`, `Handle.ofText?_eq_some_iff`: which texts are read as a handle.
* `Handle.length_text_le`, `Handle.eq_text_of_length`: no spelling is shorter than the one that is
  written, and no other in lower case is as short.
* `Heap.frees_iff`: which block a text releases.
* `Handle.ofText?_reads_spellings`: all of this together.
-/

namespace TaskScript

/-! ## Texts of handles -/

/-- No letter of the text is in upper case. -/
def IsLowerCase (text : String) : Prop := ∀ c ∈ text.toList, c.toLower = c

namespace Handle

/-- The text spells the address: the mark `0x` or `0X`, at most one plus sign, and one hexadecimal
digit or more of either case that stand for the address. -/
def Spells (text : String) (address : Nat) : Prop :=
  ∃ (mark : Char) (sign digits : List Char), text.toList = '0' :: mark :: (sign ++ digits) ∧
    (mark = 'x' ∨ mark = 'X') ∧ (sign = [] ∨ sign = ['+']) ∧ Numeral.DenotesHex digits address

theorem digits?_eq_some_iff {chars digits : List Char} :
    digits? chars = some digits ↔
      ∃ mark rest, chars = '0' :: mark :: rest ∧ (mark = 'x' ∨ mark = 'X') ∧
        Numeral.afterPlus rest = digits := by
  constructor
  · intro found
    unfold digits? at found
    split at found
    case h_1 mark rest =>
      split at found
      case isTrue isMark => exact ⟨mark, rest, rfl, isMark, Option.some.inj found⟩
      case isFalse => cases found
    case h_2 => cases found
  · rintro ⟨mark, rest, rfl, isMark, rfl⟩
    rw [digits?, if_pos isMark]

theorem ofAddress?_eq_some_iff {address : Nat} {h : Handle} :
    ofAddress? address = some h ↔ h.address = address := by
  unfold ofAddress?
  constructor
  · intro found
    split at found
    case isTrue => cases found; rfl
    case isFalse => cases found
  · rintro rfl
    exact dif_pos h.inRange

/-- A text is read as a handle just if it spells its address. -/
theorem ofText?_eq_some_iff {text : String} {h : Handle} :
    ofText? text = some h ↔ Spells text h.address := by
  unfold ofText? Spells
  simp only [Option.bind_eq_bind, Option.bind_eq_some_iff, digits?_eq_some_iff,
    Numeral.read?_sixteen, ofAddress?_eq_some_iff]
  constructor
  · rintro ⟨digits, ⟨mark, rest, chars, isMark, after⟩, address, denotes, rfl⟩
    rcases (Numeral.afterPlus_eq_iff denotes.plus_notMem).mp after with rfl | rfl
    · exact ⟨mark, [], rest, chars, isMark, .inl rfl, denotes⟩
    · exact ⟨mark, ['+'], digits, chars, isMark, .inr rfl, denotes⟩
  · rintro ⟨mark, sign, digits, chars, isMark, isSign, denotes⟩
    refine ⟨digits, ⟨mark, sign ++ digits, chars, isMark, ?_⟩, h.address, denotes, rfl⟩
    rw [Numeral.afterPlus_eq_iff denotes.plus_notMem]
    exact isSign.imp (fun none => by rw [none]; rfl) (fun plus => by rw [plus]; rfl)

theorem isLowerCase_text (h : Handle) : IsLowerCase h.text := by
  unfold IsLowerCase
  rw [toList_text, List.forall_mem_cons, List.forall_mem_cons]
  exact ⟨by decide, by decide, fun c member => Numeral.toLower_of_mem_toDigits member⟩

theorem length_text (h : Handle) : h.text.length = (Nat.toDigits 16 h.address).length + 2 := by
  rw [← String.length_toList, toList_text]
  rfl

/-- No spelling is shorter than the one that is written. -/
theorem length_text_le {h : Handle} {text : String} (spells : Spells text h.address) :
    h.text.length ≤ text.length := by
  obtain ⟨mark, sign, digits, chars, -, -, denotes⟩ := spells
  have short := denotes.length_toDigits_le
  rw [length_text, ← String.length_toList, chars]
  simp only [List.length_cons, List.length_append]
  omega

/-- No other spelling in lower case is as short as the one that is written. -/
theorem eq_text_of_length {h : Handle} {text : String} (spells : Spells text h.address)
    (lower : IsLowerCase text) (length : text.length = h.text.length) : text = h.text := by
  obtain ⟨mark, sign, digits, chars, isMark, isSign, denotes⟩ := spells
  have short := denotes.length_toDigits_le
  unfold IsLowerCase at lower
  rw [length_text, ← String.length_toList, chars] at length
  rw [chars] at lower
  simp only [List.length_cons, List.length_append] at length
  -- A sign would take the room of a digit that is needed.
  obtain rfl : sign = [] := List.length_eq_zero_iff.mp (by omega)
  rw [List.nil_append, List.forall_mem_cons, List.forall_mem_cons] at lower
  obtain ⟨-, lowerMark, lowerDigits⟩ := lower
  have isWritten : digits = Nat.toDigits 16 h.address :=
    denotes.eq_of_length (.toDigits h.address) lowerDigits
      (fun c member => Numeral.toLower_of_mem_toDigits member) (by simpa using length)
  rcases isMark with rfl | rfl
  · apply String.toList_injective
    rw [chars, toList_text, isWritten, List.nil_append]
  · exact absurd lowerMark (by decide)

end Handle

/-! ## Releasing under a spelling -/

namespace Heap

variable {heap : Heap} {text : String} {handle : Handle}

/-- Releasing under the text takes away the block at the handle, and no other. -/
def Frees (heap : Heap) (text : String) (handle : Handle) : Prop :=
  ∃ size later, heap.free text = .ok size later ∧ heap.sizeOf? handle = some size ∧
    ∀ other, later.sizeOf? other = if other = handle then none else heap.sizeOf? other

/-- The block that a text releases is the one at the handle that it is read as. -/
theorem frees_iff :
    heap.Frees text handle ↔
      Handle.ofText? text = some handle ∧ ∃ size, heap.sizeOf? handle = some size := by
  constructor
  · rintro ⟨size, later, answer, live, others⟩
    obtain ⟨named, isRead, namedLive, rfl⟩ := free_eq_ok_iff.mp answer
    -- The named block is gone, so it is the one that was taken away.
    have gone := others named
    rw [sizeOf?_erase, if_pos rfl] at gone
    by_cases same : named = handle
    · exact ⟨same ▸ isRead, size, live⟩
    · rw [if_neg same, namedLive] at gone
      cases gone
  · rintro ⟨isRead, size, live⟩
    exact ⟨size, _, free_eq_ok_iff.mpr ⟨handle, isRead, live, rfl⟩, live, sizeOf?_erase handle⟩

/-- Two texts release one block just if they are read as handles that are written alike. -/
theorem frees_both_iff {other : String} :
    (∃ handle, heap.Frees text handle ∧ heap.Frees other handle) ↔
      ∃ first second, Handle.ofText? text = some first ∧ Handle.ofText? other = some second ∧
        first.text = second.text ∧ ∃ size, heap.sizeOf? first = some size := by
  simp only [frees_iff]
  constructor
  · rintro ⟨handle, ⟨isRead, live⟩, isRead', -⟩
    exact ⟨handle, handle, isRead, isRead', rfl, live⟩
  · rintro ⟨first, second, isRead, isRead', alike, live⟩
    obtain rfl := Handle.text_injective alike
    exact ⟨first, ⟨isRead, live⟩, isRead', live⟩

end Heap

namespace Handle

/-- A text is read as the handle at an address just if it spells the address and the address is
below the 64th power of two, with however many digits it is spelled. Every handle is read back from
its text, which is in lower case, and no text that is read as the handle is shorter; one in lower
case that is as short is the same. Two texts release one block just if they are read as handles with
the same text and there is a block at it. -/
theorem ofText?_reads_spellings :
    (∀ text address, (∃ h, ofText? text = some h ∧ h.address = address) ↔
      Spells text address ∧ address < 2 ^ 64) ∧
    (∀ h, ofText? h.text = some h ∧ IsLowerCase h.text) ∧
    (∀ text h, ofText? text = some h →
      h.text.length ≤ text.length ∧
        (IsLowerCase text → text.length = h.text.length → text = h.text)) ∧
    ∀ (heap : Heap) text other,
      (∃ h, heap.Frees text h ∧ heap.Frees other h) ↔
        ∃ first second, ofText? text = some first ∧ ofText? other = some second ∧
          first.text = second.text ∧ ∃ size, heap.sizeOf? first = some size := by
  refine ⟨?_, fun h => ⟨ofText?_text h, isLowerCase_text h⟩, ?_, ?_⟩
  · intro text address
    constructor
    · rintro ⟨h, isRead, rfl⟩
      exact ⟨ofText?_eq_some_iff.mp isRead, h.inRange⟩
    · rintro ⟨spells, inRange⟩
      exact ⟨⟨address, inRange⟩, ofText?_eq_some_iff.mpr spells, rfl⟩
  · intro text h isRead
    have spells := ofText?_eq_some_iff.mp isRead
    exact ⟨length_text_le spells, eq_text_of_length spells⟩
  · intro heap text other
    exact Heap.frees_both_iff

/-- The heap holds one block of 20 bytes, at the base address. -/
theorem first_block_reads_spellings :
    let heap := (Heap.History.run [.allocate 20]).heap
    (∃ h, ofText? "0X+0001000" = some h ∧ h.text.length ≤ 10) ∧
      (∃ h, heap.Frees "0X+0001000" h ∧ heap.Frees "0x1000" h) ∧
      ¬∃ h, ofText? "0x10000000000000000" = some h ∧ h.address = 0x10000000000000000 := by
  intro heap
  obtain ⟨reads, -, shortest, releases⟩ := ofText?_reads_spellings
  have base : ofText? "0X+0001000" = some ⟨0x1000, by decide⟩ := by decide +kernel
  refine ⟨⟨_, base, (shortest _ _ base).1⟩, ?_, ?_⟩
  · refine (releases heap "0X+0001000" "0x1000").mpr ?_
    exact ⟨_, _, base, by decide +kernel, rfl, 20, by decide +kernel⟩
  · -- Seventeen digits are not too many, but the number is.
    rw [reads]
    exact fun found => absurd found.2 (by decide)

end Handle

end TaskScript
