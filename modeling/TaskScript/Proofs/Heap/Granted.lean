import TaskScript.Heap

/-!
# Handles that a heap has granted

A heap is reached from an empty one by calls that reserve and release blocks. `Heap.Granted` keeps
the handles that those calls have given out. All of them lie below the next address, so the handle
of a new block is none of them, whatever has been released in between.

`Heap.allocate_eq_ok_iff`, `Heap.allocate_eq_error_iff`, `Heap.free_eq_ok_iff` and
`Heap.free_eq_error_iff` say when the two calls are served and when they are refused, and that a
refused call has not touched the heap.
-/

namespace TaskScript.Heap

/-- Is there room for a block? A size that cannot be rounded up has none, nor has a block after
which there would be no next address. -/
def HasRoom (heap : Heap) (size : Nat) : Prop :=
  max size 1 + (alignment - 1) < addressLimit ∧ heap.next + footprint size < addressLimit

/-- The heap is reached from an empty one by calls that have granted these handles, oldest first. A
call that is refused leaves the heap as it is, so it needs no rule. -/
inductive Granted : List Handle → Heap → Prop
  | fresh : Granted [] {}
  | allocated {given : List Handle} {heap later : Heap} {size : Nat} {handle : Handle}
      (granted : Granted given heap) (answer : heap.allocate size = .ok handle later) :
      Granted (given ++ [handle]) later
  | freed {given : List Handle} {heap later : Heap} {text : String} {size : Nat}
      (granted : Granted given heap) (answer : heap.free text = .ok size later) :
      Granted given later

variable {heap later : Heap} {handle : Handle} {size : Nat} {text : String} {given : List Handle}

theorem HasRoom.next_lt (room : heap.HasRoom size) : heap.next < addressLimit :=
  Nat.lt_of_le_of_lt (Nat.le_add_right _ _) room.2

/-! ## What the two calls answer -/

theorem allocate_of_hasRoom (room : heap.HasRoom size) :
    heap.allocate size = .ok ⟨heap.next, room.next_lt⟩
      ⟨heap.next + footprint size, heap.live.insert ⟨heap.next, room.next_lt⟩ size⟩ := by
  rw [allocate, if_pos room.1, dif_pos room.2]

theorem allocate_of_not_hasRoom (noRoom : ¬heap.HasRoom size) :
    heap.allocate size = .error .exhausted heap := by
  unfold allocate
  split
  case isTrue rounds => exact dif_neg fun inRange => noRoom ⟨rounds, inRange⟩
  case isFalse => rfl

theorem allocate_eq_ok_iff :
    heap.allocate size = .ok handle later ↔
      heap.HasRoom size ∧ handle.address = heap.next ∧
        later = ⟨handle.address + footprint size, heap.live.insert handle size⟩ := by
  by_cases room : heap.HasRoom size
  · rw [allocate_of_hasRoom room]
    constructor
    · intro answer
      cases answer
      exact ⟨room, rfl, rfl⟩
    · rintro ⟨-, atNext, rfl⟩
      obtain rfl : handle = ⟨heap.next, room.next_lt⟩ := Handle.eq_of_address atNext
      rfl
  · simp [allocate_of_not_hasRoom room, room]

/-- A block that is refused leaves the heap as it is. -/
theorem allocate_eq_error_iff {e : HeapError} :
    heap.allocate size = .error e later ↔
      ¬heap.HasRoom size ∧ e = .exhausted ∧ later = heap := by
  by_cases room : heap.HasRoom size
  · simp [allocate_of_hasRoom room, room]
  · simp [allocate_of_not_hasRoom room, room, eq_comm]

theorem free_eq_ok_iff :
    heap.free text = .ok size later ↔
      ∃ handle, Handle.ofText? text = some handle ∧ heap.sizeOf? handle = some size ∧
        later = { heap with live := heap.live.erase handle } := by
  unfold free
  cases named : Handle.ofText? text with
  | none => simp
  | some handle =>
    cases found : heap.live.find? handle with
    | none => simp [SortedMap.remove, sizeOf?, found]
    | some old => simp [SortedMap.remove, sizeOf?, found, eq_comm]

/-- A release that is refused leaves the heap as it is: what was taken out was not there. -/
theorem free_eq_error_iff {e : HeapError} :
    heap.free text = .error e later ↔
      (∀ handle, Handle.ofText? text = some handle → heap.sizeOf? handle = none) ∧
        e = .unknownHandle text ∧ later = heap := by
  unfold free
  cases named : Handle.ofText? text with
  | none => simp [eq_comm]
  | some handle =>
    cases found : heap.live.find? handle with
    | none =>
      have same : { heap with live := heap.live.erase handle } = heap := by
        rw [SortedMap.erase_eq_self found]
      simp [SortedMap.remove, sizeOf?, found, same, eq_comm]
    | some old => simp [SortedMap.remove, sizeOf?, found]

/-! ## Granted handles lie below the next address -/

theorem footprint_pos (size : Nat) : 0 < footprint size := by
  unfold footprint alignment
  omega

namespace Granted

theorem lt_next (granted : Granted given heap) {old : Handle} (isGranted : old ∈ given) :
    old.address < heap.next := by
  induction granted with
  | fresh => cases isGranted
  | @allocated given heap later size handle granted answer ih =>
    obtain ⟨-, atNext, rfl⟩ := allocate_eq_ok_iff.mp answer
    have positive := footprint_pos size
    show old.address < handle.address + footprint size
    rcases List.mem_append.mp isGranted with before | isNew
    · have below := ih before
      omega
    · rw [List.mem_singleton.mp isNew]
      omega
  | freed granted answer ih =>
    obtain ⟨handle, -, -, rfl⟩ := free_eq_ok_iff.mp answer
    exact ih isGranted

/-- Only what has been granted is in use. -/
theorem mem_of_live (granted : Granted given heap) {old : Handle}
    (live : heap.sizeOf? old ≠ none) : old ∈ given := by
  induction granted with
  | fresh => exact absurd rfl live
  | @allocated given heap later size handle granted answer ih =>
    obtain ⟨-, -, rfl⟩ := allocate_eq_ok_iff.mp answer
    unfold sizeOf? at live
    rw [SortedMap.find?_insert] at live
    split at live
    case isTrue same => exact List.mem_append_right _ (List.mem_singleton.mpr same)
    case isFalse => exact List.mem_append_left _ (ih live)
  | @freed given heap later text size granted answer ih =>
    obtain ⟨handle, -, -, rfl⟩ := free_eq_ok_iff.mp answer
    apply ih
    unfold sizeOf? at live ⊢
    rw [SortedMap.find?_erase] at live
    split at live
    case isTrue => exact absurd rfl live
    case isFalse => exact live

/-- The handle at the next address has not been granted before. -/
theorem notMem_of_next (granted : Granted given heap) (atNext : handle.address = heap.next) :
    handle ∉ given := by
  intro isGranted
  have below := granted.lt_next isGranted
  omega

/-- No handle is granted twice. -/
theorem nodup (granted : Granted given heap) : given.Nodup := by
  induction granted with
  | fresh => exact List.nodup_nil
  | @allocated given heap later size handle granted answer ih =>
    obtain ⟨-, atNext, -⟩ := allocate_eq_ok_iff.mp answer
    have isNew := granted.notMem_of_next atNext
    refine List.nodup_append.mpr ⟨ih, List.pairwise_singleton _ handle, ?_⟩
    intro old isGranted other isHandle same
    rw [List.mem_singleton.mp isHandle] at same
    exact isNew (same ▸ isGranted)
  | freed granted answer ih => exact ih

theorem not_live_of_next (granted : Granted given heap) (atNext : handle.address = heap.next) :
    heap.sizeOf? handle = none := by
  cases found : heap.sizeOf? handle with
  | none => rfl
  | some size =>
    have live : heap.sizeOf? handle ≠ none := by simp [found]
    exact absurd (granted.mem_of_live live) (granted.notMem_of_next atNext)

end Granted

end TaskScript.Heap
