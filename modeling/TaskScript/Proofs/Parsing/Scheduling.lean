import TaskScript.Proofs.Parsing.Session

/-!
# What scheduled jobs are told

A task is scheduled where its directive is read, and its job is handed the latest quantum operation
and the latest transaction. The state keeps these two apart from the tables that they also went
into, and it keeps them from one parse to the next, also where a parse fails. Neither record is lost
and the two never differ: what a job is told is read off all that the state has ever read.

* `State.Remembers`: what a state keeps of the statements read so far.
* `State.Reads.at_node`: a parse that succeeds, cut open at one of its statements.
* `Session.remembers_run`: a session remembers what its parses have read, failed ones included.
* `Session.parse_schedules_tasks`: a parse has one job for each task, and each is told of the latest
  operation and the latest transaction before its directive.
-/

namespace TaskScript

namespace Statement

/-- The qubit and the operation of a quantum statement. -/
def quantum? : Statement → Option (String × String)
  | quantum qubit operation => some (qubit, operation)
  | _ => none

/-- The transaction that a statement makes. -/
def transaction? : Statement → Option String
  | ledger transaction => some transaction
  | _ => none

end Statement

/-- The last thing said is said by the last element, unless that says nothing. -/
theorem getLast?_filterMap_append {α β : Type} (said? : α → Option β) (earlier : List α)
    (last : α) :
    ((earlier ++ [last]).filterMap said?).getLast? =
      (said? last).or (earlier.filterMap said?).getLast? := by
  rw [List.filterMap_append, List.getLast?_append, List.filterMap_cons]
  cases said? last with
  | none => rfl
  | some said => rfl

namespace Program

/-- The tasks that a program schedules. -/
def tasks (nodes : Program) : List (TaskMode × String) := nodes.filterMap (·.statement.task?)

/-- What the last statement of a kind says, for the statements that say something of that kind. -/
def latest? {α : Type} (said? : Statement → Option α) (nodes : Program) : Option α :=
  (nodes.filterMap (said? ·.statement)).getLast?

theorem tasks_cons (node : Node) (later : Program) :
    tasks (node :: later) = node.statement.task?.toList ++ tasks later := by
  unfold tasks
  rw [List.filterMap_eq_flatMap_toList, List.flatMap_cons, ← List.filterMap_eq_flatMap_toList]

theorem latest?_append {α : Type} (said? : Statement → Option α) (nodes : Program) (node : Node) :
    latest? said? (nodes ++ [node]) = (said? node.statement).or (latest? said? nodes) :=
  getLast?_filterMap_append _ nodes node

end Program

namespace State

/-! ## What a state remembers -/

/-- The state keeps the latest quantum operation and the latest transaction of what has been read,
and both stand in its tables. -/
structure Remembers (s : State) (history : Program) : Prop where
  quantum : s.lastQuantum = history.latest? Statement.quantum?
  transaction : s.lastTransaction = history.latest? Statement.transaction?
  qubits : ∀ qubit operation, s.lastQuantum = some (qubit, operation) →
    s.qubits.find? qubit = some operation
  transactions : ∀ transaction, s.lastTransaction = some transaction →
    s.transactions.find? transaction = some "executed"

variable {s : State} {history : Program}

theorem absorb_deallocate (s : State) (text : String) (size : Nat) :
    ∃ heap, s.absorb (.deallocate text size) = { s with heap } := by
  simp only [absorb]
  cases Handle.ofText? text with
  | none => exact ⟨s.heap, rfl⟩
  | some handle => exact ⟨_, rfl⟩

theorem absorb_quantum (s : State) (statement : Statement) :
    (s.absorb statement).lastQuantum = statement.quantum?.or s.lastQuantum ∧
      (s.absorb statement).qubits =
        statement.quantum?.elim s.qubits fun (qubit, operation) =>
          s.qubits.insert qubit operation := by
  cases statement with
  | deallocate text size =>
    obtain ⟨heap, changed⟩ := absorb_deallocate s text size
    rw [changed]
    exact ⟨rfl, rfl⟩
  | declaration | function | conditional | quantum | ledger | allocate | schedule | optimize =>
    exact ⟨rfl, rfl⟩

theorem absorb_transaction (s : State) (statement : Statement) :
    (s.absorb statement).lastTransaction = statement.transaction?.or s.lastTransaction ∧
      (s.absorb statement).transactions =
        statement.transaction?.elim s.transactions (s.transactions.insert · "executed") := by
  cases statement with
  | deallocate text size =>
    obtain ⟨heap, changed⟩ := absorb_deallocate s text size
    rw [changed]
    exact ⟨rfl, rfl⟩
  | declaration | function | conditional | quantum | ledger | allocate | schedule | optimize =>
    exact ⟨rfl, rfl⟩

namespace Remembers

theorem absorb (remembers : s.Remembers history) (node : Node) :
    (s.absorb node.statement).Remembers (history ++ [node]) := by
  obtain ⟨lastQuantum, qubits⟩ := absorb_quantum s node.statement
  obtain ⟨lastTransaction, transactions⟩ := absorb_transaction s node.statement
  refine ⟨?_, ?_, ?_, ?_⟩
  · rw [lastQuantum, remembers.quantum, Program.latest?_append]
  · rw [lastTransaction, remembers.transaction, Program.latest?_append]
  · rw [lastQuantum, qubits]
    intro qubit operation latest
    cases here : node.statement.quantum? with
    | none =>
      rw [here] at latest
      exact remembers.qubits qubit operation latest
    | some applied =>
      rw [here] at latest
      cases latest
      exact (SortedMap.find?_insert _ _ _ _).trans (if_pos rfl)
  · rw [lastTransaction, transactions]
    intro transaction latest
    cases here : node.statement.transaction? with
    | none =>
      rw [here] at latest
      exact remembers.transactions transaction latest
    | some made =>
      rw [here] at latest
      cases latest
      exact (SortedMap.find?_insert _ _ _ _).trans (if_pos rfl)

theorem replay (remembers : s.Remembers history) (nodes : Program) :
    (s.replay nodes).Remembers (history ++ nodes) := by
  induction nodes generalizing s history with
  | nil =>
    rw [List.append_nil]
    exact remembers
  | cons node later ih =>
    have further := ih (remembers.absorb node)
    rw [List.append_assoc] at further
    exact further

/-- The symbols and the heap have no part in it. -/
theorem aside (remembers : s.Remembers history) (symbols : SortedMap String Symbol) (heap : Heap) :
    Remembers { s with symbols, heap } history :=
  ⟨remembers.quantum, remembers.transaction, remembers.qubits, remembers.transactions⟩

end Remembers

/-! ## What a job is handed -/

theorem find?_jobArgs (s : State) (key : String) :
    s.jobArgs.find? key =
      if key = "qubit" then s.lastQuantum.map (·.1)
      else if key = "operation" then s.lastQuantum.map (·.2)
      else if key = "transaction" then s.lastTransaction
      else none := by
  unfold jobArgs
  -- The three names differ, so no value is written over another.
  by_cases isQubit : key = "qubit"
  · subst isQubit
    cases s.lastQuantum <;> cases s.lastTransaction <;> simp [SortedMap.find?_insert]
  by_cases isOperation : key = "operation"
  · subst isOperation
    cases s.lastQuantum <;> cases s.lastTransaction <;> simp [SortedMap.find?_insert]
  cases s.lastQuantum <;> cases s.lastTransaction <;>
    simp [SortedMap.find?_insert, isQubit, isOperation]

/-! ## A parse at one of its statements -/

/-- Each task that is read has its job. -/
theorem Reads.jobs_eq {blocks : List Block} {parsed : Parsed} (reads : s.Reads blocks parsed) :
    parsed.jobs.map (fun job => (job.mode, job.payload)) =
      (Program.tasks parsed.nodes).map fun task => (task.1.mode, task.2) := by
  induction reads with
  | nil s => rfl
  | skipped plain reads ih => exact ih
  | @construct s later lead keyword operands effect blocks parsed leads full done reads ih =>
    simp only [Parsed.after, Program.tasks_cons, List.map_append, ih,
      Construct.job?_of_read_ok done]
    cases effect.statement.task? with
    | none => rfl
    | some task => rfl

/-- Before any statement of a program, some blocks have been read. The block of the statement comes
next, and its job, if it has one, is told by the state at that point. -/
theorem Reads.at_node {blocks : List Block} {parsed : Parsed} {before later : Program} {node : Node}
    (reads : s.Reads blocks parsed) (split : parsed.nodes = before ++ node :: later) :
    ∃ (earlier behind : List Block) (block : Block) (first : Parsed) (more : List Job),
      blocks = earlier ++ block :: behind ∧ s.Reads earlier first ∧ first.nodes = before ∧
        block.Yields node ∧
        parsed.jobs = first.jobs ++
          (node.statement.task?.map fun task => first.state.job task.1 task.2).toList ++ more := by
  induction reads generalizing before with
  | nil s => simp at split
  | skipped plain reads ih =>
    obtain ⟨earlier, behind, block, first, more, rfl, reads, found⟩ := ih split
    exact ⟨.skipped _ plain :: earlier, behind, block, first, more, rfl, .skipped plain reads,
      found⟩
  | @construct s later lead keyword operands effect blocks parsed leads full done reads ih =>
    cases before with
    | nil =>
      obtain ⟨rfl, rfl⟩ := List.cons.inj split
      refine ⟨[], blocks, .construct lead keyword operands leads full, { state := s }, parsed.jobs,
        rfl, .nil s, rfl, ⟨(Construct.read_ok done).1, rfl, rfl⟩, ?_⟩
      rw [← Construct.job?_of_read_ok done, List.nil_append]
      rfl
    | cons head before =>
      obtain ⟨rfl, rest⟩ := List.cons.inj split
      obtain ⟨earlier, behind, block, first, more, rfl, readsEarlier, rfl, yields, jobs⟩ := ih rest
      refine ⟨.construct lead keyword operands leads full :: earlier, behind, block, _, more, rfl,
        .construct leads full done readsEarlier, rfl, yields, ?_⟩
      simp only [Parsed.after, jobs, List.append_assoc]

end State

/-- The values that a job is handed are those of the latest quantum operation and of the latest
transaction read before it, and no others. The state that it was scheduled from has both in its
tables. -/
structure Job.Informed (job : Job) (history : Program) (s : State) : Prop where
  args : ∀ key, job.args.find? key =
    if key = "qubit" then (history.latest? Statement.quantum?).map (·.1)
    else if key = "operation" then (history.latest? Statement.quantum?).map (·.2)
    else if key = "transaction" then history.latest? Statement.transaction?
    else none
  qubits : ∀ qubit operation, history.latest? Statement.quantum? = some (qubit, operation) →
    s.qubits.find? qubit = some operation
  transactions : ∀ transaction, history.latest? Statement.transaction? = some transaction →
    s.transactions.find? transaction = some "executed"

theorem State.Remembers.informed {s : State} {history : Program} (remembers : s.Remembers history)
    (mode : TaskMode) (task : String) : (s.job mode task).Informed history s where
  args key := by
    rw [← remembers.quantum, ← remembers.transaction]
    exact s.find?_jobArgs key
  qubits := remembers.quantum ▸ remembers.qubits
  transactions := remembers.transaction ▸ remembers.transactions

namespace Session

/-- What a session reads to serve a request. A parse that fails in the end has read what stands
before its failing construct. -/
def readBy (x : Session) : Request → Program
  | .parse tokens => (x.state.parse tokens).nodes
  | .allocate _ | .free _ | .declare .. | .newHeap | .newSymbols => []

/-- All that a session reads to serve requests. -/
def readings (x : Session) : List Request → Program
  | [] => []
  | request :: later => x.readBy request ++ (x.serve request).readings later

theorem remembers_serve {x : Session} {history : Program} (remembers : x.state.Remembers history)
    (request : Request) : (x.serve request).state.Remembers (history ++ x.readBy request) := by
  cases request with
  | parse tokens =>
    have further := remembers.replay (x.state.parse tokens).nodes
    rw [← (x.state.parse_replays tokens).1] at further
    exact further
  | allocate size =>
    simp only [serve, readBy, List.append_nil]
    split
    case h_1 | h_2 => exact remembers.aside _ _
  | free text =>
    simp only [serve, readBy, List.append_nil]
    split
    case h_1 | h_2 => exact remembers.aside _ _
  | declare | newHeap | newSymbols =>
    simp only [serve, readBy, List.append_nil]
    exact remembers.aside _ _

theorem remembers_run (requests : List Request) :
    (run requests).state.Remembers (readings {} requests) := by
  have keeps : ∀ (x : Session) (history : Program), x.state.Remembers history →
      (requests.foldl serve x).state.Remembers (history ++ x.readings requests) := by
    induction requests with
    | nil =>
      intro x history remembers
      rw [readings, List.append_nil]
      exact remembers
    | cons request later ih =>
      intro x history remembers
      have further := ih _ _ (remembers_serve remembers request)
      rw [List.append_assoc] at further
      exact further
  exact keeps {} [] ⟨rfl, rfl, by simp, by simp⟩

/-- In any session, a parse that succeeds has one job for each task that its program schedules, in
order, with the mode and the name of the task. The job is told of the latest quantum operation and
of the latest transaction, if there are such, among all that the session has read before and what
this parse has read before the directive, and of nothing else; both stand in the tables of the state
at that point. -/
theorem parse_schedules_tasks (requests : List Request) (tokens : List (Located Token))
    (succeeded : ((run requests).state.parse tokens).error? = none) :
    let s := (run requests).state
    let parsed := s.parse tokens
    parsed.jobs.map (fun job => (job.mode, job.payload)) =
      (Program.tasks parsed.nodes).map (fun task => (task.1.mode, task.2)) ∧
    ∀ before node later mode task, parsed.nodes = before ++ node :: later →
      node.statement = .schedule mode task →
      ∃ (job : Job) (k : Nat) (directive : Block) (rest : List (Located Token)),
        parsed.jobs[(Program.tasks before).length]? = some job ∧
        job.mode = mode.mode ∧ job.payload = task ∧
        tokens.drop k = directive.tokens ++ rest ∧ directive.Yields node ∧
        (s.parse (tokens.take k)).nodes = before ∧
        job.Informed (readings {} requests ++ before) (s.parse (tokens.take k)).state := by
  intro s parsed
  obtain ⟨blocks, rfl, reads⟩ := State.exists_reads succeeded
  refine ⟨reads.jobs_eq, fun before node later mode task split schedules => ?_⟩
  obtain ⟨earlier, behind, directive, first, more, rfl, readsFirst, rfl, yields, jobs⟩ :=
    reads.at_node split
  have counted := congrArg List.length readsFirst.jobs_eq
  rw [List.length_map, List.length_map] at counted
  have remembers := (remembers_run requests).replay first.nodes
  rw [← readsFirst.replays.1] at remembers
  refine ⟨first.state.job mode task, (earlier.flatMap Block.tokens).length, directive,
    behind.flatMap Block.tokens, ?_, rfl, rfl, ?_, yields, ?_⟩
  · rw [jobs, schedules, ← counted, List.append_assoc,
      List.getElem?_append_right (Nat.le_refl _), Nat.sub_self]
    rfl
  · rw [List.flatMap_append, List.drop_left, List.flatMap_cons]
  · rw [List.flatMap_append, List.take_left, readsFirst.parse_eq]
    exact ⟨rfl, remembers.informed mode task⟩

/-- A quantum operation is read before the parse fails. -/
def broken : List Request :=
  [.parse (State.tokenColumn [.keyword .quantum, .identifier "q1", .identifier "x",
    .keyword .memory, .identifier "reserve", .number "10"])]

/-- A task, a transaction and another task. -/
def scheduling : List (Located Token) :=
  State.tokenColumn [.keyword .async, .identifier "a", .keyword .blockchain, .identifier "tx",
    .keyword .sync, .identifier "b"]

theorem scheduling_after_broken :
    let s := (run broken).state
    let parsed := s.parse scheduling
    parsed.error? = none ∧
      parsed.jobs.map (fun job => (job.mode, job.payload)) = [(.async, "a"), (.sync, "b")] ∧
      (∃ job, parsed.jobs[0]? = some job ∧ job.args.find? "qubit" = some "q1" ∧
        job.args.find? "operation" = some "x" ∧ job.args.find? "transaction" = none) ∧
      ∃ job, parsed.jobs[1]? = some job ∧ job.args.find? "qubit" = some "q1" ∧
        job.args.find? "transaction" = some "tx" ∧ job.args.find? "memory" = none := by
  intro s parsed
  have succeeded : parsed.error? = none := by decide +kernel
  let first : Node := ⟨.schedule .async "a", ⟨⟨1, 1⟩, ⟨2, 2⟩⟩, []⟩
  let second : Node := ⟨.ledger "tx", ⟨⟨3, 1⟩, ⟨4, 3⟩⟩, []⟩
  let third : Node := ⟨.schedule .sync "b", ⟨⟨5, 1⟩, ⟨6, 2⟩⟩, []⟩
  have nodes : parsed.nodes = [first, second, third] := by decide +kernel
  obtain ⟨jobs, told⟩ := parse_schedules_tasks broken scheduling succeeded
  refine ⟨succeeded, ?_, ?_, ?_⟩
  · rw [jobs, nodes]
    rfl
  · obtain ⟨job, _, _, _, here, -, -, -, -, -, informed⟩ :=
      told [] first [second, third] .async "a" nodes rfl
    exact ⟨job, here, (informed.args _).trans (by decide +kernel),
      (informed.args _).trans (by decide +kernel), (informed.args _).trans (by decide +kernel)⟩
  · obtain ⟨job, _, _, _, here, -, -, -, -, -, informed⟩ :=
      told [first, second] third [] .sync "b" nodes rfl
    exact ⟨job, here, (informed.args _).trans (by decide +kernel),
      (informed.args _).trans (by decide +kernel), (informed.args _).trans (by decide +kernel)⟩

end Session

end TaskScript
