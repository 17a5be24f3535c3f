import TaskScript.Proofs.Parsing.Block

/-!
# A program tells the state that it leaves

The statements of a program are read when the heap and the tables have already changed. Nothing is
lost by that: the state after a parse is found again by replaying the statements alone, each of
which is true of the heap when its turn comes.

A session is what becomes of one state under parses and under calls to its heap and its symbols. The
handles that the heap has granted are kept beside the state, since the heap forgets a block that is
released.

* `State.parse_replays`: the state after a parse is the replay of its statements.
* `Session.granted_run`: the handles kept are those that the heap has granted.
* `Session.parse_told_by_statements`: in any session, whatever a parse does is told by its
  statements, and the handle of a new block has never been granted before.
-/

namespace TaskScript

/-- The handle of the block that a statement reserves. -/
def Statement.grant? : Statement → Option Handle
  | allocate _ handle => some handle
  | _ => none

/-- The handles of the blocks that a program reserves. -/
def Program.grants (nodes : Program) : List Handle := nodes.filterMap (·.statement.grant?)

theorem Program.grants_cons (node : Node) (later : Program) :
    Program.grants (node :: later) = node.statement.grant?.toList ++ Program.grants later := by
  unfold Program.grants
  rw [List.filterMap_cons]
  cases node.statement.grant? with
  | none => rfl
  | some handle => rfl

namespace State

/-- The state after the statements of a program, told by the statements alone. -/
def replay (s : State) (nodes : Program) : State :=
  nodes.foldl (fun t node => t.absorb node.statement) s

/-- Every statement of a program is true of the heap when its turn comes. -/
def Bears (s : State) : Program → Prop
  | [] => True
  | node :: later => s.Admits node.statement ∧ (s.absorb node.statement).Bears later

variable {s : State} {given : List Handle}

theorem replay_cons (node : Node) (later : Program) :
    s.replay (node :: later) = (s.absorb node.statement).replay later := rfl

theorem Bears.of_append {before later : Program} (bears : s.Bears (before ++ later)) :
    s.Bears before ∧ (s.replay before).Bears later := by
  induction before generalizing s with
  | nil => exact ⟨trivial, bears⟩
  | cons node before ih =>
    obtain ⟨admits, rest⟩ := bears
    obtain ⟨bearsBefore, bearsLater⟩ := ih rest
    exact ⟨⟨admits, bearsBefore⟩, bearsLater⟩

theorem Reads.replays {blocks : List Block} {parsed : Parsed} (reads : s.Reads blocks parsed) :
    parsed.state = s.replay parsed.nodes ∧ s.Bears parsed.nodes := by
  induction reads with
  | nil s => exact ⟨rfl, trivial⟩
  | skipped plain reads ih => exact ih
  | @construct s later lead keyword operands effect blocks parsed leads full done reads ih =>
    obtain ⟨-, changed, admits⟩ := Construct.read_ok done
    obtain ⟨state, bears⟩ := ih
    rw [changed] at state bears
    exact ⟨state, admits, bears⟩

/-- The state after a parse is the replay of the statements that it has read. -/
theorem parse_replays (s : State) (tokens : List (Located Token)) :
    (s.parse tokens).state = s.replay (s.parse tokens).nodes ∧ s.Bears (s.parse tokens).nodes := by
  obtain ⟨blocks, rest, parsed, rfl, reads, rfl | ⟨e, refuses⟩⟩ := s.parse_stops tokens
  · rw [List.append_nil, reads.parse_eq]
    exact reads.replays
  · rw [reads.parse_refused refuses]
    exact reads.replays

/-! ## Handles granted on the way -/

theorem granted_absorb {statement : Statement} (granted : s.heap.Granted given)
    (admits : s.Admits statement) :
    (s.absorb statement).heap.Granted (given ++ statement.grant?.toList) := by
  cases statement with
  | allocate size handle =>
    obtain ⟨room, atNext⟩ := admits
    exact .allocated granted (Heap.allocate_eq_ok_iff.mpr ⟨room, atNext, rfl⟩)
  | deallocate text size =>
    obtain ⟨handle, named, live⟩ := admits
    simp only [absorb, named, Statement.grant?, Option.toList_none, List.append_nil]
    exact .freed granted (Heap.free_eq_ok_iff.mpr ⟨handle, named, live, rfl⟩)
  | declaration | function | conditional | quantum | ledger | schedule | optimize =>
    simp only [Statement.grant?, Option.toList_none, List.append_nil]
    exact granted

theorem granted_replay {nodes : Program} (granted : s.heap.Granted given) (bears : s.Bears nodes) :
    (s.replay nodes).heap.Granted (given ++ Program.grants nodes) := by
  induction nodes generalizing s given with
  | nil =>
    rw [Program.grants, List.filterMap_nil, List.append_nil]
    exact granted
  | cons node later ih =>
    obtain ⟨admits, rest⟩ := bears
    have further := ih (granted_absorb granted admits) rest
    rw [List.append_assoc] at further
    rw [replay_cons, Program.grants_cons]
    exact further

end State

/-- What may be asked of a state: to read tokens, to reserve or release a block, to declare a
symbol, and to begin anew with an empty heap or with no symbols. -/
inductive Session.Request where
  | parse (tokens : List (Located Token))
  | allocate (size : Nat)
  | free (text : String)
  | declare (name type value : String)
  | newHeap
  | newSymbols

/-- A state, and the handles that its heap has granted. -/
structure Session where
  state : State := {}
  given : List Handle := []

namespace Session

/-- Serves one request. A parse that fails has done what it read before. -/
def serve (x : Session) : Request → Session
  | .parse tokens =>
    let parsed := x.state.parse tokens
    { state := parsed.state, given := x.given ++ Program.grants parsed.nodes }
  | .allocate size =>
    match x.state.heap.allocate size with
    | .ok handle heap => { state := { x.state with heap }, given := x.given ++ [handle] }
    | .error _ heap => { x with state := { x.state with heap } }
  | .free text =>
    match x.state.heap.free text with
    | .ok _ heap | .error _ heap => { x with state := { x.state with heap } }
  | .declare name type value => { x with state := (x.state.declare name type value).2 }
  | .newHeap => { state := { x.state with heap := {} }, given := [] }
  | .newSymbols => { x with state := { x.state with symbols := .empty } }

/-- Serves requests one after the other, from an empty state on. -/
def run (requests : List Request) : Session := requests.foldl serve {}

theorem granted_serve {x : Session} (granted : x.state.heap.Granted x.given) (request : Request) :
    (x.serve request).state.heap.Granted (x.serve request).given := by
  cases request with
  | parse tokens =>
    obtain ⟨state, bears⟩ := x.state.parse_replays tokens
    show (x.state.parse tokens).state.heap.Granted _
    rw [state]
    exact State.granted_replay granted bears
  | allocate size =>
    simp only [serve]
    split
    case h_1 handle heap answer => exact .allocated granted answer
    case h_2 e heap answer =>
      obtain ⟨-, -, rfl⟩ := Heap.allocate_eq_error_iff.mp answer
      exact granted
  | free text =>
    simp only [serve]
    split
    case h_1 size heap answer => exact .freed granted answer
    case h_2 e heap answer =>
      obtain ⟨-, -, rfl⟩ := Heap.free_eq_error_iff.mp answer
      exact granted
  | declare name type value => exact granted
  | newHeap => exact .fresh
  | newSymbols => exact granted

theorem granted_run (requests : List Request) :
    (run requests).state.heap.Granted (run requests).given := by
  have keeps : ∀ x : Session, x.state.heap.Granted x.given →
      (requests.foldl serve x).state.heap.Granted (requests.foldl serve x).given := by
    induction requests with
    | nil => exact fun x granted => granted
    | cons request later ih => exact fun x granted => ih _ (granted_serve granted request)
  exact keeps {} .fresh

/-- In any session, the state after a parse is the replay of the statements that it has read. A
statement that reserves a block does so at a handle that is not in use and that the heap has never
granted before; one that releases a block names, in whatever spelling, a block of that size. -/
theorem parse_told_by_statements (requests : List Request) (tokens : List (Located Token)) :
    let x := run requests
    let parsed := x.state.parse tokens
    parsed.state = x.state.replay parsed.nodes ∧
      ∀ before node later, parsed.nodes = before ++ node :: later →
        let here := x.state.replay before
        here.heap.Granted (x.given ++ Program.grants before) ∧
          (∀ size handle, node.statement = .allocate size handle →
            here.heap.sizeOf? handle = none ∧ handle ∉ x.given ++ Program.grants before) ∧
          ∀ text size, node.statement = .deallocate text size →
            ∃ handle, Handle.ofText? text = some handle ∧ here.heap.sizeOf? handle = some size := by
  intro x parsed
  obtain ⟨state, bears⟩ := x.state.parse_replays tokens
  refine ⟨state, fun before node later split => ?_⟩
  have all : x.state.Bears (before ++ node :: later) := split ▸ bears
  -- Before its turn the heap has granted what the session and the earlier statements were given.
  obtain ⟨bearsBefore, admits, -⟩ := all.of_append
  have granted := State.granted_replay (granted_run requests) bearsBefore
  refine ⟨granted, ?_, ?_⟩
  · intro size handle reserves
    rw [reserves] at admits
    exact ⟨granted.not_live_of_next admits.2, granted.notMem_of_next admits.2⟩
  · intro text size releases
    rw [releases] at admits
    exact admits

/-- A block is reserved and released, and then a parse reserves another before it fails. -/
def worn : List Request :=
  [.allocate 8, .free "0X+1000",
    .parse (State.tokenColumn [.keyword .memory, .keyword .allocate, .number "20", .keyword .memory,
      .keyword .deallocate, .number "0x9"])]

/-- A block is reserved, and the one that the parse before has left is released. -/
def renewing : List (Located Token) :=
  State.tokenColumn [.keyword .memory, .keyword .allocate, .number "0", .keyword .memory,
    .keyword .deallocate, .number "0X01010"]

theorem renewing_told_by_statements :
    let x := run worn
    let parsed := x.state.parse renewing
    let reserve : Node := ⟨.allocate 0 ⟨0x1030, by decide⟩, ⟨⟨1, 1⟩, ⟨3, 2⟩⟩, []⟩
    let release : Node := ⟨.deallocate "0X01010" 20, ⟨⟨4, 1⟩, ⟨6, 8⟩⟩, []⟩
    x.given = [⟨0x1000, by decide⟩, ⟨0x1010, by decide⟩] ∧ parsed.nodes = [reserve, release] ∧
      parsed.state = x.state.replay [reserve, release] ∧
      ⟨0x1030, by decide⟩ ∉ x.given ∧
      ∃ handle, Handle.ofText? "0X01010" = some handle ∧
        (x.state.replay [reserve]).heap.sizeOf? handle = some 20 := by
  intro x parsed reserve release
  have nodes : parsed.nodes = [reserve, release] := by decide +kernel
  obtain ⟨state, told⟩ := parse_told_by_statements worn renewing
  obtain ⟨-, fresh, -⟩ := told [] reserve [release] nodes
  obtain ⟨-, -, present⟩ := told [reserve] release [] nodes
  refine ⟨by decide +kernel, nodes, nodes ▸ state, ?_, present _ _ rfl⟩
  have isNew := (fresh _ _ rfl).2
  rw [Program.grants, List.filterMap_nil, List.append_nil] at isNew
  exact isNew

end Session

end TaskScript
