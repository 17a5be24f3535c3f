import TaskScript.SortedMap
import TaskScript.Text.Numeral

/-!
# The heap

The `memory` directives reserve and release blocks of an address space of 64 bits. Blocks follow one
another from a base address, each rounded up to whole units of the alignment, and an address is
never given out twice: releasing a block makes no room for another.

A call to a heap gives an answer or a refusal, and either way the heap as the call has left it.
-/

namespace TaskScript

/-- Addresses and sizes are below this limit, the 64th power of two. -/
def addressLimit : Nat := 18446744073709551616

/-- The address of a block. -/
structure Handle where
  address : Nat
  inRange : address < addressLimit
deriving DecidableEq

namespace Handle

/-- Handles are ordered by address. -/
instance : LT Handle := ⟨fun a b => a.address < b.address⟩

instance : DecidableLT Handle := fun a b => inferInstanceAs (Decidable (a.address < b.address))

theorem eq_of_address {a b : Handle} (same : a.address = b.address) : a = b := by
  cases a
  cases b
  cases same
  rfl

instance : Std.Trichotomous (fun a b : Handle => a < b) where
  trichotomous _ _ notBefore notAfter :=
    eq_of_address (Nat.le_antisymm (Nat.le_of_not_lt notAfter) (Nat.le_of_not_lt notBefore))

instance : Trans (fun a b : Handle => a < b) (fun a b : Handle => a < b)
    (fun a b : Handle => a < b) where
  trans first second := Nat.lt_trans first second

instance ltIrrefl : Std.Irrefl (fun a b : Handle => a < b) where
  irrefl h := Nat.lt_irrefl h.address

/-- Written in hexadecimal after `0x`. -/
def text (h : Handle) : String := "0x" ++ Numeral.hex h.address

/-- The hexadecimal numeral after the mark of a handle: `0x` or `0X`, and then at most one plus
sign. -/
def digits? : List Char → Option (List Char)
  | '0' :: x :: rest => if x = 'x' ∨ x = 'X' then some (Numeral.afterPlus rest) else none
  | _ => none

/-- The handle at an address, if there is such an address. -/
def ofAddress? (address : Nat) : Option Handle :=
  if inRange : address < addressLimit then some ⟨address, inRange⟩ else none

/-- Reads a handle. -/
def ofText? (text : String) : Option Handle := do
  let digits ← digits? text.toList
  let address ← Numeral.read? 16 digits
  ofAddress? address

end Handle

/-- Why a directive cannot be carried out. -/
inductive HeapError where
  | unknownHandle (text : String)
  | exhausted
deriving DecidableEq

namespace HeapError

/-- The text of the error. -/
def message : HeapError → String
  | unknownHandle text => "No live allocation at `" ++ text ++ "`"
  | exhausted => "Address space exhausted"

end HeapError

/-- The sizes of the blocks in use, and the address of the next one. -/
structure Heap where
  next : Nat := 0x1000
  live : SortedMap Handle Nat := .empty
deriving DecidableEq

namespace Heap

/-- Every block begins at a multiple of this. -/
def alignment : Nat := 16

/-- The room that a block takes: at least one byte, rounded up to the alignment. -/
def footprint (size : Nat) : Nat := (max size 1 + (alignment - 1)) / alignment * alignment

/-- Reserves a block: the next address moves on, and then the block is entered at the old one. A size
that cannot be rounded up is refused, and so is a block after which there would be no next
address. -/
def allocate (heap : Heap) (size : Nat) : EStateM.Result HeapError Heap Handle :=
  if max size 1 + (alignment - 1) < addressLimit then
    if inRange : heap.next + footprint size < addressLimit then
      let handle : Handle := ⟨heap.next, Nat.lt_of_le_of_lt (Nat.le_add_right _ _) inRange⟩
      let heap := { heap with next := heap.next + footprint size }
      let heap := { heap with live := heap.live.insert handle size }
      .ok handle heap
    else .error .exhausted heap
  else .error .exhausted heap

/-- The size of the block at a handle. -/
def sizeOf? (heap : Heap) (h : Handle) : Option Nat := heap.live.find? h

/-- Releases the block that a handle names, whatever its spelling, and gives its size. The handle is
taken out before it is known whether it was there. -/
def free (heap : Heap) (text : String) : EStateM.Result HeapError Heap Nat :=
  match Handle.ofText? text with
  | none => .error (.unknownHandle text) heap
  | some h =>
    let (size?, live) := heap.live.remove h
    let heap := { heap with live }
    match size? with
    | none => .error (.unknownHandle text) heap
    | some size => .ok size heap

/-- The sizes of all blocks in use, together. -/
def total (heap : Heap) : Nat := heap.live.values.foldr (· + ·) 0

end Heap

end TaskScript
