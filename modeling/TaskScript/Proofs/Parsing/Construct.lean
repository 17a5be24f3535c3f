import Mathlib.Data.List.Basic
import TaskScript.Construct
import TaskScript.Proofs.Heap.Granted

/-!
# What a construct amounts to

All that later modules need of the nine constructs is said here once.

* `Construct.carryOut?_isSome_iff`: a keyword with as many tokens after it as its width says is
  always a construct, and with any other number of tokens it is none.
* `Construct.read_ok`: a construct that is read has the statement that its tokens spell, changes the
  state as that statement says, and says no more of the heap than is true.
* `Construct.job?_of_read_ok`: it schedules a job just if its statement schedules a task.
* `Construct.read_of_short`, `Construct.read_error`, `Construct.memory_error`: a construct that
  cannot be read is cut short, or it is a memory directive that the heap or the spelling does not
  allow, and on none of these ways has it touched the state.
-/

namespace TaskScript

/-- The state after a statement, told by the statement alone. -/
def State.absorb (s : State) : Statement → State
  | .declaration name type value => { s with symbols := s.symbols.insert name ⟨type, value⟩ }
  | .quantum qubit operation =>
    { s with
      qubits := s.qubits.insert qubit operation
      lastQuantum := some (qubit, operation) }
  | .ledger transaction =>
    { s with
      transactions := s.transactions.insert transaction "executed"
      lastTransaction := some transaction }
  | .allocate size handle =>
    { s with heap := ⟨handle.address + Heap.footprint size, s.heap.live.insert handle size⟩ }
  | .deallocate text _ =>
    match Handle.ofText? text with
    | some handle => { s with heap := { s.heap with live := s.heap.live.erase handle } }
    | none => s
  | .function .. | .conditional _ | .schedule .. | .optimize => s

/-- What a statement says of the heap is true: a block can be reserved at that handle, or the handle
that is written names a block of that size. -/
def State.Admits (s : State) : Statement → Prop
  | .allocate size handle => s.heap.HasRoom size ∧ handle.address = s.heap.next
  | .deallocate text size =>
    ∃ handle, Handle.ofText? text = some handle ∧ s.heap.sizeOf? handle = some size
  | _ => True

/-- The task that a statement schedules. -/
def Statement.task? : Statement → Option (TaskMode × String)
  | schedule mode task => some (mode, task)
  | _ => none

namespace Construct

/-- The statements that a keyword and the tokens after it may be read as. Every field is the text of
the token at a fixed place, but for the handle of a new block and the size of an old one, which come
from the heap. -/
inductive Spells : Keyword → List (Located Token) → Statement → Prop
  | declaration (name colon type equals value : Located Token) :
      Spells .declare [name, colon, type, equals, value]
        (.declaration (lexeme name) (lexeme type) (lexeme value))
  | function (name params : Located Token) :
      Spells .define [name, params] (.function (lexeme name) (lexeme params))
  | conditional (condition brace : Located Token) :
      Spells .condition [condition, brace] (.conditional (lexeme condition))
  | quantum (qubit operation : Located Token) :
      Spells .quantum [qubit, operation] (.quantum (lexeme qubit) (lexeme operation))
  | ledger (transaction : Located Token) :
      Spells .blockchain [transaction] (.ledger (lexeme transaction))
  | sync (task : Located Token) : Spells .sync [task] (.schedule .sync (lexeme task))
  | async (task : Located Token) : Spells .async [task] (.schedule .async (lexeme task))
  | allocate {directive argument : Located Token} {size : Nat} (handle : Handle)
      (isAllocate : directive.val.kind = .keyword .allocate) (sized : size? argument = some size) :
      Spells .memory [directive, argument] (.allocate size handle)
  | deallocate {directive : Located Token} (argument : Located Token) (size : Nat)
      (isDeallocate : directive.val.kind = .keyword .deallocate) :
      Spells .memory [directive, argument] (.deallocate (lexeme argument) size)
  | optimize : Spells .optimize [] .optimize

/-- Why a memory directive with both its tokens cannot be carried out on a heap, and which of the
two tokens is blamed. -/
inductive MemoryFault (heap : Heap) (directive argument : Located Token) :
    Located ParseError → Prop
  | badDirective (notAllocate : directive.val.kind ≠ .keyword .allocate)
      (notDeallocate : directive.val.kind ≠ .keyword .deallocate) :
      MemoryFault heap directive argument ⟨.badMemoryDirective directive.val, directive.span⟩
  | badSize (isAllocate : directive.val.kind = .keyword .allocate)
      (unsized : size? argument = none) :
      MemoryFault heap directive argument ⟨.badAllocationSize (lexeme argument), argument.span⟩
  | exhausted {size : Nat} (isAllocate : directive.val.kind = .keyword .allocate)
      (sized : size? argument = some size) (noRoom : ¬heap.HasRoom size) :
      MemoryFault heap directive argument ⟨.exhaustedMemory, argument.span⟩
  | unknownHandle (isDeallocate : directive.val.kind = .keyword .deallocate)
      (notLive : ∀ handle, Handle.ofText? (lexeme argument) = some handle →
        heap.sizeOf? handle = none) :
      MemoryFault heap directive argument
        ⟨.unknownAllocationHandle (lexeme argument), argument.span⟩

variable {s later : State} {keyword : Keyword} {lead directive argument : Located Token} {width : Nat}
  {operands : List (Located Token)} {effect : Effect} {e : Located ParseError}

/-! ## Widths -/

theorem begin?_eq_some_iff {token : Token} :
    begin? token = some (keyword, width) ↔
      token.kind = .keyword keyword ∧ keyword.width? = some width := by
  unfold begin?
  cases token.kind with
  | keyword k =>
    simp only [Option.map_eq_some_iff, Prod.mk.injEq, TokenKind.keyword.injEq]
    constructor
    · rintro ⟨w, found, rfl, rfl⟩
      exact ⟨rfl, found⟩
    · rintro ⟨rfl, found⟩
      exact ⟨width, found, rfl, rfl⟩
  | identifier | number | operator | punctuation => simp

theorem begin?_eq_none_iff {token : Token} :
    begin? token = none ↔ ∀ k, token.kind = .keyword k → k.width? = none := by
  unfold begin?
  cases token.kind with
  | keyword k => simp
  | identifier | number | operator | punctuation => simp

theorem width?_of_carryOut? (isConstruct : (carryOut? s keyword operands).isSome = true) :
    keyword.width? = some operands.length := by
  unfold carryOut? at isConstruct
  split at isConstruct
  case h_10 => cases isConstruct
  all_goals rfl

theorem carryOut?_isSome (full : keyword.width? = some operands.length) :
    (carryOut? s keyword operands).isSome = true := by
  -- The width fixes the number of tokens, and then the keyword has its own line of the definition.
  cases keyword with
  | allocate | deallocate => cases full
  | declare =>
    rcases operands with _ | ⟨_, _ | ⟨_, _ | ⟨_, _ | ⟨_, _ | ⟨_, _ | _⟩⟩⟩⟩⟩
    all_goals simp [Keyword.width?, carryOut?] at full ⊢
  | define | condition | quantum | memory =>
    obtain ⟨first, second, rfl⟩ := List.length_eq_two.mp (Option.some.inj full).symm
    rfl
  | blockchain | sync | async =>
    obtain ⟨only, rfl⟩ := List.length_eq_one_iff.mp (Option.some.inj full).symm
    rfl
  | optimize =>
    obtain rfl := List.length_eq_zero_iff.mp (Option.some.inj full).symm
    rfl

/-- A keyword with tokens after it is a construct just if they are as many as its width says. -/
theorem carryOut?_isSome_iff :
    (carryOut? s keyword operands).isSome = true ↔ keyword.width? = some operands.length :=
  ⟨width?_of_carryOut?, carryOut?_isSome⟩

theorem read_of_carryOut? {outcome : Outcome} (found : carryOut? s keyword operands = some outcome) :
    read s keyword lead width operands = outcome := by
  rw [read, found]

theorem read_of_short (wide : keyword.width? = some width) (short : operands.length < width) :
    read s keyword lead width operands =
      .error ⟨.outOfTokens keyword width operands.length, lead.span⟩ s := by
  cases found : carryOut? s keyword operands with
  | none => rw [read, found]
  | some outcome =>
    have full := width?_of_carryOut? (s := s) (by rw [found]; rfl)
    rw [wide] at full
    have := Option.some.inj full
    omega

theorem memory_of_allocate {directive argument : Located Token}
    (isAllocate : directive.val.kind = .keyword .allocate) :
    memory s directive argument = allocate s argument :=
  if_pos (Token.is_iff.mpr isAllocate)

theorem memory_of_deallocate {directive argument : Located Token}
    (isDeallocate : directive.val.kind = .keyword .deallocate) :
    memory s directive argument = deallocate s argument := by
  have notAllocate : ¬ directive.val.is .allocate = true := by
    rw [Token.is_iff, isDeallocate]
    decide
  rw [memory, if_neg notAllocate, if_pos (Token.is_iff.mpr isDeallocate)]

/-! ## Constructs that are read -/

theorem allocate_ok (isAllocate : directive.val.kind = .keyword .allocate)
    (done : allocate s argument = .ok effect later) :
    Spells .memory [directive, argument] effect.statement ∧
      later = s.absorb effect.statement ∧ s.Admits effect.statement := by
  unfold allocate at done
  split at done
  case h_1 => cases done
  case h_2 size sized =>
    split at done
    case h_1 => cases done
    case h_2 handle heap answer =>
      cases done
      obtain ⟨room, atNext, rfl⟩ := Heap.allocate_eq_ok_iff.mp answer
      exact ⟨.allocate handle isAllocate sized, rfl, room, atNext⟩

theorem deallocate_ok (isDeallocate : directive.val.kind = .keyword .deallocate)
    (done : deallocate s argument = .ok effect later) :
    Spells .memory [directive, argument] effect.statement ∧
      later = s.absorb effect.statement ∧ s.Admits effect.statement := by
  unfold deallocate at done
  split at done
  case h_1 => cases done
  case h_2 size heap answer =>
    cases done
    obtain ⟨handle, named, live, rfl⟩ := Heap.free_eq_ok_iff.mp answer
    refine ⟨.deallocate argument size isDeallocate, ?_, handle, named, live⟩
    simp only [State.absorb, named]

theorem memory_ok (done : memory s directive argument = .ok effect later) :
    Spells .memory [directive, argument] effect.statement ∧
      later = s.absorb effect.statement ∧ s.Admits effect.statement := by
  unfold memory at done
  split at done
  case isTrue isAllocate => exact allocate_ok (Token.is_iff.mp isAllocate) done
  case isFalse =>
    split at done
    case isTrue isDeallocate => exact deallocate_ok (Token.is_iff.mp isDeallocate) done
    case isFalse => cases done

/-- A construct that is read has the statement that its tokens spell, and changes the state as that
statement says. -/
theorem read_ok (done : read s keyword lead width operands = .ok effect later) :
    Spells keyword operands effect.statement ∧
      later = s.absorb effect.statement ∧ s.Admits effect.statement := by
  unfold read at done
  split at done
  case h_2 => cases done
  case h_1 outcome found =>
  subst done
  unfold carryOut? at found
  split at found
  case h_8 directive argument => exact memory_ok (Option.some.inj found)
  case h_10 => cases found
  all_goals
    cases found
    exact ⟨by constructor, rfl, trivial⟩

theorem width?_of_read_ok (done : read s keyword lead width operands = .ok effect later) :
    keyword.width? = some operands.length := by
  unfold read at done
  split at done
  case h_1 outcome found => exact width?_of_carryOut? (s := s) (by rw [found]; rfl)
  case h_2 => cases done

theorem memory_job? (done : memory s directive argument = .ok effect later) :
    effect.job? = none := by
  unfold memory at done
  split at done
  case isTrue =>
    unfold allocate at done
    split at done
    case h_1 => cases done
    case h_2 =>
      split at done
      case h_1 => cases done
      case h_2 =>
        cases done
        rfl
  case isFalse =>
    split at done
    case isTrue =>
      unfold deallocate at done
      split at done
      case h_1 => cases done
      case h_2 =>
        cases done
        rfl
    case isFalse => cases done

/-- The job of a construct is that of the task that its statement schedules, with what the state
before it tells. -/
theorem job?_of_read_ok (done : read s keyword lead width operands = .ok effect later) :
    effect.job? = effect.statement.task?.map fun task => s.job task.1 task.2 := by
  have spells := (read_ok done).1
  unfold read at done
  split at done
  case h_2 => cases done
  case h_1 outcome found =>
  subst done
  unfold carryOut? at found
  split at found
  case h_8 directive argument =>
    rw [memory_job? (Option.some.inj found)]
    generalize effect.statement = statement at spells ⊢
    cases spells with
    | allocate | deallocate => rfl
  case h_10 => cases found
  all_goals
    cases found
    rfl

/-! ## Constructs that cannot be read -/

theorem allocate_error (isAllocate : directive.val.kind = .keyword .allocate)
    (failed : allocate s argument = .error e later) :
    later = s ∧ MemoryFault s.heap directive argument e := by
  unfold allocate at failed
  split at failed
  case h_1 unsized =>
    cases failed
    exact ⟨rfl, .badSize isAllocate unsized⟩
  case h_2 size sized =>
    split at failed
    case h_1 refusal heap answer =>
      obtain ⟨noRoom, rfl, rfl⟩ := Heap.allocate_eq_error_iff.mp answer
      cases failed
      exact ⟨rfl, .exhausted isAllocate sized noRoom⟩
    case h_2 => cases failed

theorem deallocate_error (isDeallocate : directive.val.kind = .keyword .deallocate)
    (failed : deallocate s argument = .error e later) :
    later = s ∧ MemoryFault s.heap directive argument e := by
  unfold deallocate at failed
  split at failed
  case h_1 refusal heap answer =>
    obtain ⟨notLive, rfl, rfl⟩ := Heap.free_eq_error_iff.mp answer
    cases failed
    exact ⟨rfl, .unknownHandle isDeallocate notLive⟩
  case h_2 => cases failed

/-- A memory directive that fails has left the state as it was, since no call to the heap that is
refused has touched the heap. -/
theorem memory_error (failed : memory s directive argument = .error e later) :
    later = s ∧ MemoryFault s.heap directive argument e := by
  unfold memory at failed
  split at failed
  case isTrue isAllocate => exact allocate_error (Token.is_iff.mp isAllocate) failed
  case isFalse notAllocate =>
    split at failed
    case isTrue isDeallocate => exact deallocate_error (Token.is_iff.mp isDeallocate) failed
    case isFalse notDeallocate =>
      cases failed
      exact ⟨rfl, .badDirective (Token.is_iff.not.mp notAllocate)
        (Token.is_iff.not.mp notDeallocate)⟩

/-- Of the constructs with all their tokens only a memory directive can fail. -/
theorem read_error (full : keyword.width? = some operands.length)
    (failed : read s keyword lead width operands = .error e later) :
    keyword = .memory ∧ ∃ directive argument, operands = [directive, argument] ∧
      memory s directive argument = .error e later := by
  obtain ⟨outcome, found⟩ := Option.isSome_iff_exists.mp (carryOut?_isSome (s := s) full)
  rw [read_of_carryOut? found] at failed
  subst failed
  unfold carryOut? at found
  split at found
  case h_8 directive argument => exact ⟨rfl, directive, argument, rfl, Option.some.inj found⟩
  all_goals cases found

end Construct

end TaskScript
