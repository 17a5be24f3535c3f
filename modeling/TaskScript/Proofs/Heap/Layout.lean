import TaskScript.Proofs.Heap.History

/-!
# Where blocks lie

Blocks are laid one after the other from the base on, each at a multiple of the alignment, and
releasing one moves no other. So the blocks in use never overlap, whatever has been released between
them, and together they are no larger than the addresses handed out, however close to the limit
their sizes come.

* `Heap.Laid`: how the blocks in use lie, kept by both calls (`Laid.allocate`, `Laid.free`).
* `Heap.Laid.total_le`: blocks that lie apart add up to no more than the room they lie in.
* `History.run_lays_blocks_apart`: all this after any calls, refused ones included.
-/

namespace TaskScript.Heap

/-- The blocks in use lie apart, at multiples of the alignment, between the base and the next
address. A block of size zero takes a byte. -/
structure Laid (heap : Heap) : Prop where
  next_aligned : 16 ∣ heap.next
  base_le_next : 0x1000 ≤ heap.next
  next_lt : heap.next < addressLimit
  block : ∀ handle size, heap.sizeOf? handle = some size →
    16 ∣ handle.address ∧ 0x1000 ≤ handle.address ∧ handle.address + max size 1 ≤ heap.next
  apart : ∀ a b sizeA sizeB, a < b → heap.sizeOf? a = some sizeA → heap.sizeOf? b = some sizeB →
    a.address + max sizeA 1 ≤ b.address

variable {heap later : Heap} {handle : Handle} {size : Nat} {text : String} {given : List Handle}

/-! ## Room that a block takes -/

theorem dvd_footprint (size : Nat) : 16 ∣ footprint size := Nat.dvd_mul_left _ _

theorem le_footprint (size : Nat) : max size 1 ≤ footprint size := by
  unfold footprint alignment
  omega

/-! ## What the calls keep -/

namespace Laid

theorem empty : Laid {} where
  next_aligned := by decide
  base_le_next := Nat.le_refl _
  next_lt := by decide
  block _ _ live := by cases live
  apart _ _ _ _ _ live := by cases live

theorem allocate (laid : heap.Laid) (answer : heap.allocate size = .ok handle later) :
    later.Laid := by
  have sizes := sizeOf?_allocate answer
  obtain ⟨room, atNext, rfl⟩ := allocate_eq_ok_iff.mp answer
  have fits := le_footprint size
  have base := laid.base_le_next
  have aligned := laid.next_aligned
  refine ⟨?_, ?_, ?_, ?_, ?_⟩
  · rw [atNext]
    exact Nat.dvd_add aligned (dvd_footprint size)
  · show 0x1000 ≤ handle.address + footprint size
    omega
  · rw [atNext]
    exact room.2
  · intro h n live
    rw [sizes] at live
    show _ ∧ _ ∧ h.address + max n 1 ≤ handle.address + footprint size
    split at live
    case isTrue same =>
      cases live
      subst same
      rw [atNext]
      exact ⟨aligned, base, by omega⟩
    case isFalse =>
      obtain ⟨isAligned, aboveBase, belowNext⟩ := laid.block h n live
      exact ⟨isAligned, aboveBase, by omega⟩
  · intro a b sizeA sizeB before liveA liveB
    rw [sizes] at liveA liveB
    split at liveA
    case isTrue sameA =>
      -- Nothing in use lies behind the new block.
      subst sameA
      split at liveB
      case isTrue sameB => exact absurd (sameB ▸ before) (Nat.lt_irrefl _)
      case isFalse =>
        have belowNext := (laid.block b sizeB liveB).2.2
        have behind : a.address < b.address := before
        omega
    case isFalse =>
      split at liveB
      case isTrue sameB =>
        subst sameB
        have belowNext := (laid.block a sizeA liveA).2.2
        omega
      case isFalse => exact laid.apart a b sizeA sizeB before liveA liveB

theorem free (laid : heap.Laid) (answer : heap.free text = .ok size later) : later.Laid := by
  obtain ⟨handle, -, -, rfl⟩ := free_eq_ok_iff.mp answer
  have stays : ∀ h n, sizeOf? { heap with live := heap.live.erase handle } h = some n →
      heap.sizeOf? h = some n := by
    intro h n live
    rw [sizeOf?_erase] at live
    split at live
    case isTrue => cases live
    case isFalse => exact live
  refine ⟨laid.next_aligned, laid.base_le_next, laid.next_lt, ?_, ?_⟩
  · intro h n live
    exact laid.block h n (stays h n live)
  · intro a b sizeA sizeB before liveA liveB
    exact laid.apart a b sizeA sizeB before (stays a sizeA liveA) (stays b sizeB liveB)

end Laid

theorem Granted.laid (granted : Granted given heap) : heap.Laid := by
  induction granted with
  | fresh => exact .empty
  | allocated granted answer ih => exact ih.allocate answer
  | freed granted answer ih => exact ih.free answer

/-! ## Sizes together -/

/-- Blocks that lie one after the other between two addresses are together no larger than the room
between them. -/
theorem sum_le_of_apart {blocks : List (Handle × Nat)} {floor ceiling : Nat}
    (ordered : floor ≤ ceiling)
    (apart : blocks.Pairwise fun a b => a.1.address + max a.2 1 ≤ b.1.address)
    (above : ∀ block ∈ blocks, floor ≤ block.1.address)
    (below : ∀ block ∈ blocks, block.1.address + max block.2 1 ≤ ceiling) :
    floor + (blocks.map (·.2)).sum ≤ ceiling := by
  induction blocks generalizing floor with
  | nil => exact ordered
  | cons block rest ih =>
    obtain ⟨blockFirst, restApart⟩ := List.pairwise_cons.mp apart
    have here := above block List.mem_cons_self
    have ends := below block List.mem_cons_self
    -- The rest lies between the end of this block and the ceiling.
    have together := ih ends restApart blockFirst fun b inRest =>
      below b (List.mem_cons_of_mem block inRest)
    rw [List.map_cons, List.sum_cons]
    omega

theorem Laid.total_le (laid : heap.Laid) : 0x1000 + heap.total ≤ heap.next := by
  have inUse : ∀ block ∈ heap.live.entries, heap.sizeOf? block.1 = some block.2 :=
    fun block member => SortedMap.find?_eq_some_iff.2 member
  have apart : heap.live.entries.Pairwise fun a b => a.1.address + max a.2 1 ≤ b.1.address := by
    refine heap.live.sorted.imp_of_mem ?_
    intro a b isA isB before
    exact laid.apart a.1 b.1 a.2 b.2 before (inUse a isA) (inUse b isB)
  rw [total_eq_sum]
  refine sum_le_of_apart laid.base_le_next apart ?_ ?_
  · intro block member
    exact (laid.block block.1 block.2 (inUse block member)).2.1
  · intro block member
    exact (laid.block block.1 block.2 (inUse block member)).2.2

namespace History

/-! ## The next address -/

theorem next_le_serve (x : History) (call : Call) : x.heap.next ≤ (x.serve call).heap.next := by
  obtain ⟨size, handle, heap, answer, served⟩ | ⟨text, size, heap, answer, served⟩ | ⟨e, served⟩ :=
    x.serve_cases call
  · obtain ⟨-, atNext, rfl⟩ := allocate_eq_ok_iff.mp answer
    rw [served]
    show x.heap.next ≤ handle.address + footprint size
    omega
  · obtain ⟨handle, -, -, rfl⟩ := free_eq_ok_iff.mp answer
    have same : (x.serve call).heap.next = x.heap.next := by rw [served]
    exact Nat.le_of_eq same.symm
  · have same : (x.serve call).heap.next = x.heap.next := by rw [served]
    exact Nat.le_of_eq same.symm

theorem next_le_run (calls more : List Call) :
    (run calls).heap.next ≤ (run (calls ++ more)).heap.next := by
  have further : run (calls ++ more) = more.foldl serve (run calls) := List.foldl_append
  rw [further]
  exact List.foldlRecOn more serve (Nat.le_refl _)
    fun x reached call _ => Nat.le_trans reached (x.next_le_serve call)

/-- After any calls, refused ones included, the next address and the handles in use are multiples of
16 from the base on. Every block in use ends before the next address and before any block behind it,
so that no address lies in two of them. The next address never goes back. The blocks in use are
together no larger than the addresses handed out, so their sizes can be added up in 64 bits. -/
theorem run_lays_blocks_apart (calls more : List Call) :
    let heap := (run calls).heap
    (16 ∣ heap.next ∧ 0x1000 ≤ heap.next) ∧
    (∀ handle size, heap.sizeOf? handle = some size →
      16 ∣ handle.address ∧ 0x1000 ≤ handle.address ∧ handle.address + max size 1 ≤ heap.next) ∧
    (∀ a b sizeA sizeB, a < b → heap.sizeOf? a = some sizeA → heap.sizeOf? b = some sizeB →
      a.address + max sizeA 1 ≤ b.address) ∧
    (∀ a b sizeA sizeB address, heap.sizeOf? a = some sizeA → heap.sizeOf? b = some sizeB →
      a.address ≤ address ∧ address < a.address + max sizeA 1 →
      b.address ≤ address ∧ address < b.address + max sizeB 1 → a = b) ∧
    heap.next ≤ (run (calls ++ more)).heap.next ∧
    heap.total ≤ heap.next - 0x1000 ∧ heap.total < addressLimit := by
  intro heap
  have laid : heap.Laid := (recorded_run calls).granted.laid
  have together := laid.total_le
  have limited := laid.next_lt
  refine ⟨⟨laid.next_aligned, laid.base_le_next⟩, laid.block, laid.apart, ?_,
    next_le_run calls more, by omega, by omega⟩
  intro a b sizeA sizeB address liveA liveB insideA insideB
  rcases Nat.lt_trichotomy a.address b.address with before | same | behind
  · have apart := laid.apart a b sizeA sizeB before liveA liveB
    omega
  · exact Handle.eq_of_address same
  · have apart := laid.apart b a sizeB sizeA behind liveB liveA
    omega

/-- A small block, one that leaves no room for another, an attempt at one more, and the release of
the small one. -/
def crowded : List Call :=
  [.allocate 5, .allocate 18446744073709547488, .allocate 0, .free "0X+1000"]

theorem crowded_lays_blocks_apart :
    let heap := (run crowded).heap
    let large : Handle := ⟨0x1010, by decide⟩
    heap.sizeOf? large = some 18446744073709547488 ∧
      (16 ∣ large.address ∧ 0x1000 ≤ large.address ∧
        large.address + 18446744073709547488 ≤ heap.next) ∧
      (run (crowded.take 2)).heap.total ≤ (run (crowded.take 2)).heap.next - 0x1000 ∧
      (run (crowded.take 2)).heap.next ≤ heap.next ∧
      (run (crowded.take 2)).heap.total = 18446744073709547493 := by
  intro heap large
  have live : heap.sizeOf? large = some 18446744073709547488 := by decide +kernel
  obtain ⟨-, blocks, -⟩ := run_lays_blocks_apart crowded []
  obtain ⟨-, -, -, -, later, together, -⟩ :=
    run_lays_blocks_apart (crowded.take 2) (crowded.drop 2)
  exact ⟨live, blocks large _ live, together, later, by decide +kernel⟩

end History

end TaskScript.Heap
