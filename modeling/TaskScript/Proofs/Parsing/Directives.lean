import Mathlib.Algebra.Order.Floor.Div
import Mathlib.GroupTheory.GroupAction.Ring
import TaskScript.Proofs.Heap.History
import TaskScript.Proofs.Lexer.Spaced
import TaskScript.Proofs.Parsing.Session
import TaskScript.Proofs.Text.Numeral

/-!
# Memory directives

The two directives from the characters of their arguments to the heap that they leave.

* `Numeral.read?_ten`: the sizes are the decimal numerals, whatever zeros they begin with.
* `Handle.ofText?_text`, `Handle.isLexeme`: a handle is written as one number, which reads back as
  the same handle.
* `Heap.hasRoom_iff`: in exact arithmetic, there is room for a block just if the address after it is
  in range.
* `State.release_by_written_handle`: a block is released by its handle as written, and only once.
* `Session.allocate_exactly`: which sizes are refused, which blocks are, and where a block is placed.
-/

namespace TaskScript

/-! ## The texts of arguments -/

/-- A digit of any base continues a word. -/
theorem Numeral.isWordChar_of_digit? {base : Nat} {c : Char}
    (isDigit : (digit? base c).isSome = true) : isWordChar c = true := by
  obtain ⟨value, found⟩ := Option.isSome_iff_exists.mp isDigit
  have valued : digitValue c = some value := Option.eq_some_of_filter_eq_some found
  have ranges : (48 ≤ c.toNat ∧ c.toNat ≤ 57) ∨ (97 ≤ c.toNat ∧ c.toNat ≤ 122) ∨
      (65 ≤ c.toNat ∧ c.toNat ≤ 90) := by
    unfold digitValue at valued
    split at valued
    case isTrue digit => exact .inl digit
    case isFalse =>
      split at valued
      case isTrue lower => exact .inr (.inl lower)
      case isFalse =>
        split at valued
        case isTrue upper => exact .inr (.inr upper)
        case isFalse => cases valued
  have ascii : isAscii c = true := by
    simp only [isAscii, decide_eq_true_eq]
    omega
  rw [isWordChar_iff_of_isAscii ascii]
  omega

/-- A handle is written as one number. -/
theorem Handle.isLexeme (h : Handle) : (Token.number h.text).IsLexeme := by
  refine ⟨⟨'0', 'x' :: Nat.toDigits 16 h.address, [], ?_, by decide, ?_, .inl rfl⟩, fun word => ?_⟩
  · rw [List.append_nil]
    exact h.toList_text
  · rw [List.forall_mem_cons]
    refine ⟨by decide, fun c member => ?_⟩
    have read : Numeral.readAfter? 16 0 (Nat.toDigits 16 h.address) = some h.address :=
      Numeral.readAfter?_toDigits (by decide) (by decide) h.address
    exact Numeral.isWordChar_of_digit? (Numeral.isSome_digit?_of_readAfter? read c member)
  · cases word

/-- The size that a lexeme states is the one that its digits denote. -/
theorem Construct.size?_eq_some_iff {argument : Located Token}
    (isLexeme : argument.val.IsLexeme) {n : Nat} :
    size? argument = some n ↔ n < addressLimit ∧ Numeral.Denotes argument.val.text.toList n := by
  have read : size? argument = some n ↔
      n < addressLimit ∧ Numeral.Denotes (Numeral.afterPlus argument.val.text.toList) n := by
    rw [← Numeral.read?_ten]
    show (Numeral.read? 10 _).filter _ = some n ↔ _
    rw [Option.filter_eq_some_iff, decide_eq_true_iff, and_comm]
    rfl
  rw [read]
  by_cases plus : '+' ∈ argument.val.text.toList
  · -- A plus sign is a lexeme by itself, so no digits stand after it.
    have alone : argument.val.text.toList = ['+'] := by
      have noWord : isWordChar '+' = false := by decide
      rcases LexemeClass.mem_of_spells isLexeme.1 plus with continues | point | ⟨alone, -⟩
      · rw [noWord] at continues
        cases continues
      · cases point
      · exact alone
    rw [alone]
    simp [Numeral.Denotes, Numeral.afterPlus]
  · rw [Numeral.afterPlus_of_notMem plus]

/-! ## Room for blocks -/

namespace Heap

variable {heap later : Heap} {n m : Nat}

theorem footprint_eq (size : Nat) : footprint size = 16 * (max size 1 ⌈/⌉ 16) := by
  rw [Nat.ceilDiv_eq_add_pred_div, Nat.mul_comm]
  rfl

/-- In exact arithmetic there is room for a block just if the address after it is in range. A size
that cannot be rounded up makes no case of its own, since the limit is a multiple of the
alignment. -/
theorem hasRoom_iff : heap.HasRoom n ↔ heap.next + 16 * (max n 1 ⌈/⌉ 16) < addressLimit := by
  rw [← footprint_eq]
  constructor
  · exact fun room => room.2
  · intro below
    refine ⟨?_, below⟩
    unfold footprint alignment at below
    unfold addressLimit at below ⊢
    show max n 1 + 15 < 18446744073709551616
    omega

/-- What has no room in a heap has none in a fuller one, nor has anything larger. -/
theorem HasRoom.of_later (room : later.HasRoom m) (fuller : heap.next ≤ later.next)
    (smaller : n ≤ m) : heap.HasRoom n := by
  obtain ⟨rounds, fits⟩ := room
  unfold footprint alignment at fits
  constructor
  · omega
  · unfold footprint alignment
    omega

end Heap

/-! ## The next address -/

namespace State

variable {s : State}

theorem next_le_absorb {statement : Statement} (admits : s.Admits statement) :
    s.heap.next ≤ (s.absorb statement).heap.next := by
  cases statement with
  | allocate size handle =>
    obtain ⟨-, atNext⟩ := admits
    show s.heap.next ≤ handle.address + Heap.footprint size
    omega
  | deallocate text size =>
    obtain ⟨handle, named, -⟩ := admits
    simp only [absorb, named]
    exact Nat.le_refl _
  | declaration | function | conditional | quantum | ledger | schedule | optimize =>
    exact Nat.le_refl _

theorem next_le_replay {nodes : Program} (bears : s.Bears nodes) :
    s.heap.next ≤ (s.replay nodes).heap.next := by
  induction nodes generalizing s with
  | nil => exact Nat.le_refl _
  | cons node later ih =>
    obtain ⟨admits, rest⟩ := bears
    exact Nat.le_trans (next_le_absorb admits) (ih rest)

end State

namespace Session

/-- Nothing but a new heap takes the next address back. -/
theorem next_le_serve (x : Session) {request : Request} (same : request ≠ .newHeap) :
    x.state.heap.next ≤ (x.serve request).state.heap.next := by
  cases request with
  | parse tokens =>
    obtain ⟨state, bears⟩ := x.state.parse_replays tokens
    show x.state.heap.next ≤ (x.state.parse tokens).state.heap.next
    rw [state]
    exact State.next_le_replay bears
  | allocate size =>
    simp only [serve]
    split
    case h_1 handle heap answer =>
      obtain ⟨-, atNext, rfl⟩ := Heap.allocate_eq_ok_iff.mp answer
      show x.state.heap.next ≤ handle.address + Heap.footprint size
      omega
    case h_2 e heap answer =>
      obtain ⟨-, -, rfl⟩ := Heap.allocate_eq_error_iff.mp answer
      exact Nat.le_refl _
  | free text =>
    simp only [serve]
    split
    case h_1 size heap answer =>
      obtain ⟨handle, -, -, rfl⟩ := Heap.free_eq_ok_iff.mp answer
      exact Nat.le_refl _
    case h_2 e heap answer =>
      obtain ⟨-, -, rfl⟩ := Heap.free_eq_error_iff.mp answer
      exact Nat.le_refl _
  | declare | newSymbols => exact Nat.le_refl _
  | newHeap => exact absurd rfl same

theorem next_le_foldl (x : Session) {requests : List Request} (same : .newHeap ∉ requests) :
    x.state.heap.next ≤ (requests.foldl serve x).state.heap.next := by
  induction requests generalizing x with
  | nil => exact Nat.le_refl _
  | cons request later ih =>
    rw [List.mem_cons, not_or] at same
    exact Nat.le_trans (x.next_le_serve (Ne.symm same.1)) (ih (x.serve request) same.2)

/-- What has no room stays refused, as does anything larger, whatever is released later. -/
theorem exhausted_foldl (x : Session) {n m : Nat} (noRoom : ¬ x.state.heap.HasRoom n)
    (smaller : n ≤ m) {requests : List Request} (same : .newHeap ∉ requests) :
    let late := (requests.foldl serve x).state.heap
    late.allocate m = .error .exhausted late :=
  Heap.allocate_eq_error_iff.mpr
    ⟨fun room => noRoom (room.of_later (x.next_le_foldl same) smaller), rfl, rfl⟩

end Session

/-! ## Directives -/

namespace State

variable {s later : State} {lead directive argument : Located Token}

theorem parse_directive {effect : Effect} (leads : lead.val.kind = .keyword .memory)
    (done : Construct.memory s directive argument = .ok effect later)
    (rest : List (Located Token)) :
    s.parse (lead :: directive :: argument :: rest) =
      (later.parse rest).after effect (lead.span.through argument.span) := by
  have full : Keyword.memory.width? = some [directive, argument].length := rfl
  exact parse_of_ok leads full done

/-- A block is released by its handle as written. -/
theorem parse_release {handle : Handle} {size : Nat} (live : s.heap.sizeOf? handle = some size)
    (leads : lead.val.kind = .keyword .memory)
    (directs : directive.val.kind = .keyword .deallocate)
    (names : Construct.lexeme argument = handle.text) (rest : List (Located Token)) :
    let left : State := { s with heap := { s.heap with live := s.heap.live.erase handle } }
    s.parse (lead :: directive :: argument :: rest) =
      (left.parse rest).after { statement := .deallocate handle.text size }
        (lead.span.through argument.span) := by
  intro left
  have freed : s.heap.free handle.text = .ok size left.heap :=
    Heap.free_eq_ok_iff.mpr ⟨handle, handle.ofText?_text, live, rfl⟩
  refine parse_directive leads ?_ rest
  rw [Construct.memory_of_deallocate directs]
  simp only [Construct.deallocate, names, freed]
  rfl

/-- The handle of no block in use is refused, and nothing changes. -/
theorem parse_unknown {handle : Handle} (dead : s.heap.sizeOf? handle = none)
    (leads : lead.val.kind = .keyword .memory)
    (directs : directive.val.kind = .keyword .deallocate)
    (names : Construct.lexeme argument = handle.text) (rest : List (Located Token)) :
    s.parse (lead :: directive :: argument :: rest) =
      { state := s, error? := some ⟨.unknownAllocationHandle handle.text, argument.span⟩ } := by
  have refused : s.heap.free handle.text = .error (.unknownHandle handle.text) s.heap := by
    refine Heap.free_eq_error_iff.mpr ⟨fun other named => ?_, rfl, rfl⟩
    rw [handle.ofText?_text] at named
    rw [← Option.some.inj named]
    exact dead
  have failed : Construct.memory s directive argument =
      .error ⟨.unknownAllocationHandle handle.text, argument.span⟩ s := by
    rw [Construct.memory_of_deallocate directs]
    simp only [Construct.deallocate, names, refused, ParseError.ofHeap]
  exact Refuses.parse_eq (.memory leads failed rest)

theorem tokenize_release (name : String) (handle : Handle) :
    let read := (Source.ofText name ("memory deallocate " ++ handle.text ++ " ;")).tokenize
    read.tokens.map (·.val) = [.keyword .memory, .keyword .deallocate, .number handle.text,
      .punctuation ';'] ∧ read.warnings = [] := by
  have sign : (Token.punctuation ';').IsLexeme :=
    ⟨⟨';', by decide, rfl⟩, fun word => by cases word⟩
  have lexemes : ∀ token ∈ [Token.keyword .memory, .keyword .deallocate, .number handle.text,
      .punctuation ';'], token.IsLexeme := by
    simp [Keyword.isLexeme, handle.isLexeme, sign]
  have text : "memory deallocate " ++ handle.text ++ " ;" =
      " ".intercalate (List.map Token.text [.keyword .memory, .keyword .deallocate,
        .number handle.text, .punctuation ';']) := by
    refine String.toList_injective ?_
    simp [Token.keyword, Token.number, Token.punctuation, Keyword.text]
  rw [text]
  exact Source.tokenize_spaced name lexemes

/-- A live block is released by its handle as written, from the text of the directive on: the text
is read without a warning, as the one statement that releases this block; the block is no longer in
use afterwards and all else is as before; and the same text again is refused, names the handle and
changes nothing. -/
theorem release_by_written_handle (s : State) {handle : Handle} {size : Nat}
    (live : s.heap.sizeOf? handle = some size) (name : String) :
    let read := (Source.ofText name ("memory deallocate " ++ handle.text ++ " ;")).tokenize
    let parsed := s.parse read.tokens
    let again := parsed.state.parse read.tokens
    read.warnings = [] ∧
    parsed.error? = none ∧ parsed.jobs = [] ∧
    parsed.nodes.map (·.statement) = [.deallocate handle.text size] ∧
    (∀ h, parsed.state.heap.sizeOf? h = if h = handle then none else s.heap.sizeOf? h) ∧
    parsed.state.heap.next = s.heap.next ∧
    parsed.state = { s with heap := parsed.state.heap } ∧
    again.error?.map (·.val) = some (.unknownAllocationHandle handle.text) ∧
    again.state = parsed.state ∧ again.nodes = [] ∧ again.jobs = [] := by
  intro read parsed again
  obtain ⟨vals, noWarnings⟩ := tokenize_release name handle
  obtain ⟨lead, rest, isRead, leads, vals⟩ := List.map_eq_cons_iff.mp vals
  obtain ⟨directive, rest, rfl, directs, vals⟩ := List.map_eq_cons_iff.mp vals
  obtain ⟨argument, rest, rfl, isNumber, vals⟩ := List.map_eq_cons_iff.mp vals
  obtain ⟨sign, rest, rfl, isSign, vals⟩ := List.map_eq_cons_iff.mp vals
  obtain rfl : rest = [] := List.map_eq_nil_iff.mp vals
  have leads := congrArg Token.kind leads
  have directs := congrArg Token.kind directs
  have names : Construct.lexeme argument = handle.text := by
    rw [Construct.lexeme, isNumber]
    rfl
  have plain : ∀ k, sign.val.kind = .keyword k → k.width? = none := by
    intro k isKeyword
    rw [isSign] at isKeyword
    cases isKeyword
  have passed (t : State) : t.parse [sign] = { state := t } := (parse_skipped plain).trans parse_nil
  let left : State := { s with heap := { s.heap with live := s.heap.live.erase handle } }
  have sizes (h : Handle) :
      left.heap.sizeOf? h = if h = handle then none else s.heap.sizeOf? h :=
    Heap.sizeOf?_erase handle h
  have first : parsed = Parsed.after { statement := .deallocate handle.text size }
      (lead.span.through argument.span) { state := left } := by
    show s.parse read.tokens = _
    rw [isRead, parse_release live leads directs names, passed]
  have dead : left.heap.sizeOf? handle = none := (sizes handle).trans (if_pos rfl)
  have second : again =
      { state := left, error? := some ⟨.unknownAllocationHandle handle.text, argument.span⟩ } := by
    show parsed.state.parse read.tokens = _
    rw [first, isRead]
    exact parse_unknown dead leads directs names [sign]
  rw [second, first]
  exact ⟨noWarnings, rfl, rfl, rfl, sizes, rfl, rfl, rfl, rfl, rfl, rfl⟩

/-- Three blocks, the last of which ends where the last one can. -/
def crammed : State :=
  (Session.run [.allocate 5, .allocate 18446744073709547472, .allocate 7]).state

/-- The handle of the last block. -/
def lastHandle : Handle := ⟨18446744073709551584, by decide⟩

theorem crammed_released_by_written_handle :
    crammed.heap.sizeOf? lastHandle = some 7 ∧
      let read := (Source.ofText "a" "memory deallocate 0xffffffffffffffe0 ;").tokenize
      let parsed := crammed.parse read.tokens
      read.warnings = [] ∧
        parsed.nodes.map (·.statement) = [.deallocate "0xffffffffffffffe0" 7] ∧
        parsed.state.heap.sizeOf? lastHandle = none ∧
        (parsed.state.parse read.tokens).error?.map (·.val) =
          some (.unknownAllocationHandle "0xffffffffffffffe0") := by
  have live : crammed.heap.sizeOf? lastHandle = some 7 := by decide +kernel
  have written : lastHandle.text = "0xffffffffffffffe0" := by decide +kernel
  obtain ⟨noWarnings, -, -, statements, sizes, -, -, refused, -⟩ :=
    release_by_written_handle crammed live "a"
  rw [written] at noWarnings statements sizes refused
  exact ⟨live, noWarnings, statements, (sizes lastHandle).trans (if_pos rfl), refused⟩

/-! ## Reserving blocks -/

variable {n : Nat}

theorem tokenize_allocate (name : String) {token : Token} (isLexeme : token.IsLexeme) :
    (Source.ofText name ("memory allocate " ++ token.text)).tokenize.tokens.map (·.val) =
      [.keyword .memory, .keyword .allocate, token] := by
  have lexemes : ∀ t ∈ [Token.keyword .memory, .keyword .allocate, token], t.IsLexeme := by
    simp [Keyword.isLexeme, isLexeme]
  have text : "memory allocate " ++ token.text =
      " ".intercalate (List.map Token.text [.keyword .memory, .keyword .allocate, token]) := by
    refine String.toList_injective ?_
    simp [Token.keyword, Keyword.text]
  rw [text]
  exact (Source.tokenize_spaced name lexemes).1

theorem parse_unsized (leads : lead.val.kind = .keyword .memory)
    (directs : directive.val.kind = .keyword .allocate) (unsized : Construct.size? argument = none) :
    s.parse [lead, directive, argument] =
      { state := s, error? := some ⟨.badAllocationSize argument.val.text, argument.span⟩ } := by
  have failed : Construct.memory s directive argument =
      .error ⟨.badAllocationSize argument.val.text, argument.span⟩ s := by
    rw [Construct.memory_of_allocate directs]
    simp only [Construct.allocate, unsized, Construct.lexeme]
  exact Refuses.parse_eq (.memory leads failed [])

theorem parse_exhausted (leads : lead.val.kind = .keyword .memory)
    (directs : directive.val.kind = .keyword .allocate) (sized : Construct.size? argument = some n)
    (noRoom : ¬ s.heap.HasRoom n) :
    s.parse [lead, directive, argument] =
      { state := s, error? := some ⟨.exhaustedMemory, argument.span⟩ } := by
  have refused : s.heap.allocate n = .error .exhausted s.heap :=
    Heap.allocate_eq_error_iff.mpr ⟨noRoom, rfl, rfl⟩
  have failed : Construct.memory s directive argument =
      .error ⟨.exhaustedMemory, argument.span⟩ s := by
    rw [Construct.memory_of_allocate directs]
    simp only [Construct.allocate, sized, refused, ParseError.ofHeap]
  exact Refuses.parse_eq (.memory leads failed [])

theorem parse_reserved (leads : lead.val.kind = .keyword .memory)
    (directs : directive.val.kind = .keyword .allocate) (sized : Construct.size? argument = some n)
    (room : s.heap.HasRoom n) {handle : Handle} (atNext : handle.address = s.heap.next) :
    s.parse [lead, directive, argument] =
      { nodes := [{ statement := .allocate n handle, span := lead.span.through argument.span }]
        state := { s with heap :=
          ⟨s.heap.next + Heap.footprint n, s.heap.live.insert handle n⟩ } } := by
  have reserved : s.heap.allocate n =
      .ok handle ⟨s.heap.next + Heap.footprint n, s.heap.live.insert handle n⟩ := by
    rw [← atNext]
    exact Heap.allocate_eq_ok_iff.mpr ⟨room, atNext, rfl⟩
  have done : Construct.memory s directive argument =
      .ok { statement := .allocate n handle } { s with heap :=
        ⟨s.heap.next + Heap.footprint n, s.heap.live.insert handle n⟩ } := by
    rw [Construct.memory_of_allocate directs]
    simp only [Construct.allocate, sized, reserved]
  rw [parse_directive leads done, parse_nil]
  rfl

end State

/-- What `memory allocate` makes of a lexeme, in any session and in exact arithmetic. The lexeme
states no size just if it is not a decimal numeral below the limit. A size is refused for want of
room just if the address after the block would not be in range, and then it stays refused, as does
any larger one, whatever is released later. Otherwise the block begins at the next address and the
next one follows it. What is refused changes nothing. -/
theorem Session.allocate_exactly (x : Session) {source : Source} {argument : Located Token}
    (isRead : argument ∈ source.tokenize.tokens) {tokens : List (Located Token)}
    (written : tokens.map (·.val) = [.keyword .memory, .keyword .allocate, argument.val]) :
    let heap := x.state.heap
    let parsed := x.state.parse tokens
    (∀ name, (Source.ofText name ("memory allocate " ++ argument.val.text)).tokenize.tokens.map
      (·.val) = tokens.map (·.val)) ∧
    (parsed.error?.map (·.val) = some (.badAllocationSize argument.val.text) ↔
      ¬ ∃ n < addressLimit, Numeral.Denotes argument.val.text.toList n) ∧
    (parsed.error? ≠ none → parsed.state = x.state ∧ parsed.nodes = [] ∧ parsed.jobs = []) ∧
    ∀ n < addressLimit, Numeral.Denotes argument.val.text.toList n →
      let next := heap.next + 16 * (max n 1 ⌈/⌉ 16)
      (parsed.error?.map (·.val) = some .exhaustedMemory ↔ addressLimit ≤ next) ∧
      (next < addressLimit → parsed.error? = none ∧ parsed.jobs = [] ∧
        ∃ handle : Handle, handle.address = heap.next ∧
          parsed.nodes.map (·.statement) = [.allocate n handle] ∧
          parsed.state = { x.state with heap := ⟨next, heap.live.insert handle n⟩ }) ∧
      (addressLimit ≤ next → ∀ (more : List Request) (m : Nat), .newHeap ∉ more → n ≤ m →
        let late := ((.parse tokens :: more).foldl serve x).state.heap
        late.allocate m = .error .exhausted late) := by
  intro heap parsed
  have spelled (name : String) : (Source.ofText name
      ("memory allocate " ++ argument.val.text)).tokenize.tokens.map (·.val) = tokens.map (·.val) := by
    rw [written]
    exact State.tokenize_allocate name (Source.isLexeme_of_mem_tokenize isRead)
  obtain ⟨lead, rest, rfl, leads, vals⟩ := List.map_eq_cons_iff.mp written
  obtain ⟨directive, rest, rfl, directs, vals⟩ := List.map_eq_cons_iff.mp vals
  obtain ⟨third, rest, rfl, same, vals⟩ := List.map_eq_cons_iff.mp vals
  obtain rfl : rest = [] := List.map_eq_nil_iff.mp vals
  have leads := congrArg Token.kind leads
  have directs := congrArg Token.kind directs
  have isLexeme : third.val.IsLexeme := by
    rw [same]
    exact Source.isLexeme_of_mem_tokenize isRead
  refine ⟨spelled, ?_⟩
  rw [← same]
  cases sized : Construct.size? third with
  | none =>
    have unsized : ∀ n < addressLimit, ¬ Numeral.Denotes third.val.text.toList n := by
      intro n below denotes
      have found := (Construct.size?_eq_some_iff isLexeme).mpr ⟨below, denotes⟩
      rw [sized] at found
      cases found
    have failed : parsed = _ := State.parse_unsized leads directs sized
    rw [failed]
    refine ⟨⟨?_, fun _ => rfl⟩, fun _ => ⟨rfl, rfl, rfl⟩, fun n below denotes => ?_⟩
    · rintro - ⟨n, below, denotes⟩
      exact unsized n below denotes
    · exact absurd denotes (unsized n below)
  | some n =>
    obtain ⟨below, denotes⟩ := (Construct.size?_eq_some_iff isLexeme).mp sized
    have denoted : ∃ n < addressLimit, Numeral.Denotes third.val.text.toList n :=
      ⟨n, below, denotes⟩
    by_cases room : heap.HasRoom n
    · let handle : Handle := ⟨heap.next, room.next_lt⟩
      have atNext : handle.address = heap.next := rfl
      have done : parsed = _ := State.parse_reserved leads directs sized room atNext
      have inRange := Heap.hasRoom_iff.mp room
      rw [done]
      refine ⟨⟨fun failed => ?_, fun none => absurd denoted none⟩, fun failed => absurd rfl failed,
        fun m belowToo denotesToo => ?_⟩
      · cases failed
      obtain rfl := denotes.unique denotesToo
      refine ⟨⟨fun failed => ?_, fun beyond => absurd inRange (Nat.not_lt.mpr beyond)⟩,
        fun _ => ⟨rfl, rfl, handle, rfl, rfl, ?_⟩,
        fun beyond => absurd inRange (Nat.not_lt.mpr beyond)⟩
      · cases failed
      · rw [← Heap.footprint_eq]
    · have failed : parsed = _ := State.parse_exhausted leads directs sized room
      have beyond := Nat.not_lt.mp (Heap.hasRoom_iff.not.mp room)
      rw [failed]
      refine ⟨⟨fun other => ?_, fun none => absurd denoted none⟩, fun _ => ⟨rfl, rfl, rfl⟩,
        fun m belowToo denotesToo => ?_⟩
      · cases other
      obtain rfl := denotes.unique denotesToo
      refine ⟨⟨fun _ => beyond, fun _ => rfl⟩,
        fun inRange => absurd inRange (Nat.not_lt.mpr beyond), fun _ more m same smaller => ?_⟩
      refine x.exhausted_foldl room smaller fun member => ?_
      rcases List.mem_cons.mp member with isParse | later
      · cases isParse
      · exact same later

/-- The last sixteen bytes are refused, since no address would come after them. -/
theorem crammed_allocates_exactly :
    let x : Session := ⟨State.crammed, []⟩
    let source := Source.ofText "a" "memory allocate 0016"
    let argument : Located Token := ⟨.number "0016", ⟨⟨1, 17⟩, ⟨1, 21⟩⟩⟩
    let tokens := source.tokenize.tokens
    argument ∈ tokens ∧
      tokens.map (·.val) = [.keyword .memory, .keyword .allocate, argument.val] ∧
      x.state.heap.next + 16 = addressLimit ∧
      (x.state.parse tokens).error?.map (·.val) = some .exhaustedMemory ∧
      let late := ([.parse tokens, .free "0x1000"].foldl Session.serve x).state.heap
      late.allocate 17 = .error .exhausted late := by
  intro x source argument tokens
  have isRead : argument ∈ tokens := by decide +kernel
  have written : tokens.map (·.val) = [.keyword .memory, .keyword .allocate, argument.val] := by
    decide +kernel
  have next : x.state.heap.next + 16 = addressLimit := by decide +kernel
  obtain ⟨-, -, -, sized⟩ := x.allocate_exactly isRead written
  obtain ⟨exhausted, -, stays⟩ := sized 16 (by decide) (by decide)
  have rounded : 16 * (max 16 1 ⌈/⌉ 16) = 16 := rfl
  have beyond : addressLimit ≤ x.state.heap.next + 16 * (max 16 1 ⌈/⌉ 16) := by
    rw [rounded, next]
  refine ⟨isRead, written, next, exhausted.mpr beyond, ?_⟩
  exact stays beyond [.free "0x1000"] 17 (by simp) (by decide)

end TaskScript
