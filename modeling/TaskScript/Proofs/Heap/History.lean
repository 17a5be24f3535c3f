import Mathlib.Algebra.GroupWithZero.Nat
import TaskScript.Proofs.Heap.Granted

/-!
# The history of a heap

A heap keeps only the blocks in use. Its history keeps what became of every call since it was empty,
refused calls included, and all that the heap will answer can be read off it.

* `History.serve_cases`: a call grants a block, releases one, or is refused and changes nothing.
* `History.Recorded`: what the events tell of the heap, kept by every call.
* `History.run_accounts_for_blocks`: after any calls, the handles granted are all different, a block
  can be released just if it was granted and no release has named it in any spelling, and the bytes
  in use are those granted less those released.
-/

namespace TaskScript.Heap

/-- A call to a heap. -/
inductive Call where
  | allocate (size : Nat)
  | free (text : String)
deriving DecidableEq

/-- What a call has come to. -/
inductive Event where
  | granted (size : Nat) (handle : Handle)
  | released (text : String) (size : Nat)
  | refused (call : Call) (error : HeapError)
deriving DecidableEq

namespace Event

/-- The handle of the block that was granted. -/
def grant? : Event → Option Handle
  | granted _ handle => some handle
  | _ => none

/-- The block at the handle was released, under some spelling of it. -/
def Releases (handle : Handle) : Event → Prop
  | released text _ => Handle.ofText? text = some handle
  | granted .. | refused .. => False

instance decidableReleases (handle : Handle) : (event : Event) → Decidable (event.Releases handle)
  | released text _ => inferInstanceAs (Decidable (Handle.ofText? text = some handle))
  | granted .. | refused .. => inferInstanceAs (Decidable False)

/-- The bytes that were granted. -/
def bytesGranted : Event → Nat
  | granted size _ => size
  | _ => 0

/-- The bytes that were released. -/
def bytesReleased : Event → Nat
  | released _ size => size
  | _ => 0

end Event

variable {heap later : Heap} {handle : Handle} {size : Nat} {text : String}

/-! ## Bytes in use -/

theorem total_eq_sum (heap : Heap) : heap.total = (heap.live.entries.map (·.2)).sum := rfl

theorem total_allocate (answer : heap.allocate size = .ok handle later)
    (isNew : heap.sizeOf? handle = none) : later.total = size + heap.total := by
  obtain ⟨-, -, rfl⟩ := allocate_eq_ok_iff.mp answer
  have entries : (heap.live.insert handle size).entries.Perm
      ((handle, size) :: heap.live.entries) := SortedMap.perm_insert isNew
  rw [total_eq_sum, (entries.map (·.2)).sum_nat, List.map_cons, List.sum_cons, total_eq_sum]

theorem total_free (answer : heap.free text = .ok size later) :
    heap.total = size + later.total := by
  obtain ⟨handle, -, live, rfl⟩ := free_eq_ok_iff.mp answer
  have entries := SortedMap.perm_erase live
  rw [total_eq_sum, (entries.map (·.2)).sum_nat, List.map_cons, List.sum_cons, total_eq_sum]

theorem sizeOf?_allocate (answer : heap.allocate size = .ok handle later) (h : Handle) :
    later.sizeOf? h = if h = handle then some size else heap.sizeOf? h := by
  obtain ⟨-, -, rfl⟩ := allocate_eq_ok_iff.mp answer
  exact SortedMap.find?_insert heap.live handle h size

theorem sizeOf?_erase (handle h : Handle) :
    sizeOf? { heap with live := heap.live.erase handle } h =
      if h = handle then none else heap.sizeOf? h :=
  SortedMap.find?_erase heap.live handle h

/-- What has become of the calls to a heap, oldest first, and the heap that they have left. -/
structure History where
  events : List Event := []
  heap : Heap := {}

namespace History

/-- Serves one call. -/
def serve (x : History) : Call → History
  | .allocate size =>
    match x.heap.allocate size with
    | .ok handle heap => { events := x.events ++ [.granted size handle], heap }
    | .error e heap => { events := x.events ++ [.refused (.allocate size) e], heap }
  | .free text =>
    match x.heap.free text with
    | .ok size heap => { events := x.events ++ [.released text size], heap }
    | .error e heap => { events := x.events ++ [.refused (.free text) e], heap }

/-- Serves calls one after the other, from an empty heap on. -/
def run (calls : List Call) : History := calls.foldl serve {}

/-- The handles granted so far. -/
def given (x : History) : List Handle := x.events.filterMap Event.grant?

/-- A call grants a block, releases one, or is refused and changes nothing. -/
theorem serve_cases (x : History) (call : Call) :
    (∃ size handle heap, x.heap.allocate size = .ok handle heap ∧
      x.serve call = ⟨x.events ++ [.granted size handle], heap⟩) ∨
    (∃ text size heap, x.heap.free text = .ok size heap ∧
      x.serve call = ⟨x.events ++ [.released text size], heap⟩) ∨
    ∃ e, x.serve call = ⟨x.events ++ [.refused call e], x.heap⟩ := by
  cases call with
  | allocate size =>
    cases answer : x.heap.allocate size with
    | ok handle heap => exact .inl ⟨size, handle, heap, answer, by simp only [serve, answer]⟩
    | error e heap =>
      obtain ⟨-, -, rfl⟩ := allocate_eq_error_iff.mp answer
      exact .inr (.inr ⟨e, by simp only [serve, answer]⟩)
  | free text =>
    cases answer : x.heap.free text with
    | ok size heap => exact .inr (.inl ⟨text, size, heap, answer, by simp only [serve, answer]⟩)
    | error e heap =>
      obtain ⟨-, -, rfl⟩ := free_eq_error_iff.mp answer
      exact .inr (.inr ⟨e, by simp only [serve, answer]⟩)

/-- What the events tell of the heap. -/
structure Recorded (x : History) : Prop where
  granted : x.heap.Granted x.given
  /-- Only a block that was granted has been released. -/
  known : ∀ handle, ∀ event ∈ x.events, event.Releases handle → handle ∈ x.given
  /-- The blocks in use are those granted and not released. -/
  live : ∀ handle size, x.heap.sizeOf? handle = some size ↔
    .granted size handle ∈ x.events ∧ ∀ event ∈ x.events, ¬event.Releases handle
  balanced : x.heap.total + (x.events.map Event.bytesReleased).sum =
    (x.events.map Event.bytesGranted).sum

namespace Recorded

variable {x : History}

theorem empty : Recorded {} where
  granted := .fresh
  known _ _ isEvent := by cases isEvent
  live handle size := by
    constructor
    · intro live
      cases live
    · rintro ⟨isEvent, -⟩
      cases isEvent
  balanced := rfl

/-- One more event. It is enough to say what it tells of the heap before and after it: which block
it adds or takes away, and how many bytes. -/
theorem record {event : Event} (recorded : x.Recorded)
    (granted : later.Granted (x.given ++ event.grant?.toList))
    (known : ∀ handle, event.Releases handle → handle ∈ x.given)
    (live : ∀ handle size, later.sizeOf? handle = some size ↔
      (x.heap.sizeOf? handle = some size ∨ event = .granted size handle) ∧ ¬event.Releases handle)
    (balanced : later.total + event.bytesReleased = x.heap.total + event.bytesGranted) :
    Recorded ⟨x.events ++ [event], later⟩ := by
  have given : given ⟨x.events ++ [event], later⟩ = x.given ++ event.grant?.toList := by
    simp only [History.given, List.filterMap_append, List.filterMap_cons, List.filterMap_nil]
    cases event.grant? with
    | none => rfl
    | some handle => rfl
  refine ⟨given ▸ granted, ?_, ?_, ?_⟩
  · intro handle e isEvent releases
    rw [given]
    apply List.mem_append_left
    rcases List.mem_append.mp isEvent with before | isLast
    · exact recorded.known handle e before releases
    · rw [List.mem_singleton.mp isLast] at releases
      exact known handle releases
  · intro handle size
    -- Nothing before the grant of a handle speaks of it, since the handle was not known then.
    have unnamed : event = .granted size handle → ∀ e ∈ x.events, ¬e.Releases handle := by
      rintro rfl e before releases
      have isGranted := recorded.known handle e before releases
      have apart := (List.nodup_append.mp granted.nodup).2.2
      exact apart handle isGranted handle (by simp [Event.grant?]) rfl
    rw [live, recorded.live, List.forall_mem_append, List.forall_mem_singleton, List.mem_append,
      List.mem_singleton]
    constructor
    · rintro ⟨⟨isEvent, notReleased⟩ | isNew, notNow⟩
      · exact ⟨.inl isEvent, notReleased, notNow⟩
      · exact ⟨.inr isNew.symm, unnamed isNew, notNow⟩
    · rintro ⟨isEvent | isNew, notReleased, notNow⟩
      · exact ⟨.inl ⟨isEvent, notReleased⟩, notNow⟩
      · exact ⟨.inr isNew.symm, notNow⟩
  · have before := recorded.balanced
    simp only [List.map_append, List.sum_append, List.map_cons, List.map_nil, List.sum_cons,
      List.sum_nil]
    omega

theorem allocate (recorded : x.Recorded) (answer : x.heap.allocate size = .ok handle later) :
    Recorded ⟨x.events ++ [.granted size handle], later⟩ := by
  obtain ⟨-, atNext, -⟩ := allocate_eq_ok_iff.mp answer
  have notLive := recorded.granted.not_live_of_next atNext
  refine recorded.record (.allocated recorded.granted answer) ?_ ?_ ?_
  · intro h releases
    cases releases
  · intro h n
    rw [sizeOf?_allocate answer]
    by_cases same : h = handle
    · subst same
      simp [notLive, Event.Releases]
    · simp [same, Ne.symm same, Event.Releases]
  · have more := total_allocate answer notLive
    simp only [Event.bytesReleased, Event.bytesGranted]
    omega

theorem free (recorded : x.Recorded) (answer : x.heap.free text = .ok size later) :
    Recorded ⟨x.events ++ [.released text size], later⟩ := by
  obtain ⟨handle, named, live, rfl⟩ := free_eq_ok_iff.mp answer
  have given : x.given ++ (Event.released text size).grant?.toList = x.given := List.append_nil _
  refine recorded.record (by rw [given]; exact .freed recorded.granted answer) ?_ ?_ ?_
  · intro h releases
    obtain rfl : handle = h := Option.some.inj (named.symm.trans releases)
    exact recorded.granted.mem_of_live (by simp [live])
  · intro h n
    rw [sizeOf?_erase]
    by_cases same : h = handle
    · subst same
      simp [Event.Releases, named]
    · simp [Event.Releases, named, same, Ne.symm same]
  · have less := total_free answer
    simp only [Event.bytesReleased, Event.bytesGranted]
    omega

theorem refuse (recorded : x.Recorded) (call : Call) (e : HeapError) :
    Recorded ⟨x.events ++ [.refused call e], x.heap⟩ := by
  have given : x.given ++ (Event.refused call e).grant?.toList = x.given := List.append_nil _
  refine recorded.record (by rw [given]; exact recorded.granted) ?_ ?_ rfl
  · intro h releases
    cases releases
  · intro h n
    simp [Event.Releases]

theorem serve (recorded : x.Recorded) (call : Call) : (x.serve call).Recorded := by
  obtain ⟨size, handle, heap, answer, served⟩ | ⟨text, size, heap, answer, served⟩ | ⟨e, served⟩ :=
    x.serve_cases call
  · rw [served]
    exact recorded.allocate answer
  · rw [served]
    exact recorded.free answer
  · rw [served]
    exact recorded.refuse call e

end Recorded

theorem recorded_run (calls : List Call) : (run calls).Recorded :=
  List.foldlRecOn calls serve Recorded.empty fun _ recorded call _ => recorded.serve call

/-- After any calls, no two grants have had the same handle. A release succeeds just if the text
spells a handle that was granted and that no release has named, in this spelling or another, and it
gives back the size that the block was granted with; a release that fails leaves the heap as it is.
The bytes in use are those granted less those released. -/
theorem run_accounts_for_blocks (calls : List Call) :
    let x := run calls
    (x.events.filterMap Event.grant?).Nodup ∧
    (∀ text size, (∃ later, x.heap.free text = .ok size later) ↔
      ∃ handle, Handle.ofText? text = some handle ∧ .granted size handle ∈ x.events ∧
        ∀ event ∈ x.events, ¬event.Releases handle) ∧
    (∀ text e later, x.heap.free text = .error e later → later = x.heap) ∧
    x.heap.total = (x.events.map Event.bytesGranted).sum - (x.events.map Event.bytesReleased).sum ∧
    (x.events.map Event.bytesReleased).sum ≤ (x.events.map Event.bytesGranted).sum := by
  intro x
  have recorded : x.Recorded := recorded_run calls
  have balanced := recorded.balanced
  refine ⟨recorded.granted.nodup, ?_, ?_, by omega, by omega⟩
  · intro text size
    constructor
    · rintro ⟨later, answer⟩
      obtain ⟨handle, named, live, -⟩ := free_eq_ok_iff.mp answer
      exact ⟨handle, named, (recorded.live handle size).mp live⟩
    · rintro ⟨handle, named, inUse⟩
      have live := (recorded.live handle size).mpr inUse
      exact ⟨_, free_eq_ok_iff.mpr ⟨handle, named, live, rfl⟩⟩
  · intro text e later refused
    exact (free_eq_error_iff.mp refused).2.2

/-- A block is reserved and released, two more are reserved, and the first is named once more. -/
def renewed : List Call :=
  [.allocate 8, .free "0X+1000", .allocate 20, .allocate 0, .free "0x1000"]

theorem renewed_accounts_for_blocks :
    let x := run renewed
    x.given = [⟨0x1000, by decide⟩, ⟨0x1010, by decide⟩, ⟨0x1030, by decide⟩] ∧
      (∃ later, x.heap.free "0X01010" = .ok 20 later) ∧
      (∀ size later, x.heap.free "0x01000" ≠ .ok size later) ∧ x.heap.total = 20 := by
  intro x
  obtain ⟨-, releases, -, total, -⟩ := run_accounts_for_blocks renewed
  refine ⟨by decide +kernel, ?_, ?_, ?_⟩
  · exact (releases "0X01010" 20).mpr ⟨⟨0x1010, by decide⟩, by decide +kernel⟩
  · -- The first block has been released under another spelling of its handle.
    intro size later answer
    obtain ⟨handle, named, -, notReleased⟩ := (releases "0x01000" size).mp ⟨later, answer⟩
    have first : Handle.ofText? "0x01000" = some ⟨0x1000, by decide⟩ := by decide +kernel
    obtain rfl := Option.some.inj (first.symm.trans named)
    exact notReleased (.released "0X+1000" 8) (by decide +kernel) (by decide +kernel)
  · rw [total]
    decide +kernel

end History

end TaskScript.Heap
