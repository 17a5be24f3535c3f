import TaskScript.Pipeline
import TaskScript.Proofs.Parsing.Block

/-!
# Categories of records

A pass is any function on programs, and it is run before the records are made. It is held to the
category at every place, and to whether there is one, so that dropping what has no category on both
sides leaves the same list. The categories of the records are therefore those of the text, told by
its keywords, whatever the pass has done.

* `Pipeline.PoolStarts`: the threads for the jobs start, which is up to the system.
* `Pipeline.Ends`, `Pipeline.compileUnder_ends`: the five ways in which a compilation ends.
* `Program.agrees_iff`: what a pass is held to.
* `State.Reads.categories_eq`: the categories of a program are those of its constructs.
* `Pipeline.compile_keeps_categories`: the records of a compilation have the categories of the
  constructs in the text, and a pass is refused just if it changes a category or the number of
  statements.
-/

namespace TaskScript

/-! ## Categories of constructs -/

/-- The category of a construct, told by its keyword and, for memory, by the directive. -/
def Construct.category? : Keyword → List (Located Token) → Option Category
  | .quantum, _ => some .quantum
  | .blockchain, _ => some .ledger
  | .declare, _ => some .declaration
  | .define, _ => some .function
  | .sync, _ => some (.task .sync)
  | .async, _ => some (.task .async)
  | .memory, directive :: _ =>
    if directive.val.is .allocate then some .allocation else some .deallocation
  | .condition, _ | .optimize, _ => none
  -- Nothing that is read begins like these.
  | .memory, [] | .allocate, _ | .deallocate, _ => none

/-- The category of a block of tokens. -/
def Block.category? : Block → Option Category
  | skipped .. => none
  | construct _ keyword operands _ _ => Construct.category? keyword operands

theorem Construct.Spells.category?_eq {keyword : Keyword} {operands : List (Located Token)}
    {statement : Statement} (spells : Spells keyword operands statement) :
    statement.category? = category? keyword operands := by
  cases spells with
  | allocate handle isAllocate sized =>
    simp [Construct.category?, Token.is, isAllocate, Statement.category?]
  | deallocate argument size isDeallocate =>
    simp [Construct.category?, Token.is, isDeallocate, Statement.category?]
  | declaration | function | conditional | quantum | ledger | sync | async | optimize => rfl

theorem State.Reads.categories_eq {s : State} {blocks : List Block} {parsed : Parsed}
    (reads : s.Reads blocks parsed) :
    parsed.nodes.filterMap Node.category? = blocks.filterMap Block.category? := by
  induction reads with
  | nil s => rfl
  | skipped plain reads ih =>
    rw [List.filterMap_cons_none rfl]
    exact ih
  | @construct s later lead keyword operands effect blocks parsed leads full done reads ih =>
    have same := (Construct.read_ok done).1.category?_eq
    simp only [Parsed.after, List.filterMap_cons, Node.category?, Block.category?, same, ih]

namespace Program

/-! ## What a pass is held to -/

theorem records_category (program : Program) :
    program.records.map (·.category) = program.filterMap Node.category? := by
  unfold records
  rw [List.map_filterMap]
  congr 1
  funext node
  unfold Record.ofNode?
  cases node.category? with
  | none => rfl
  | some category => rfl

theorem filterMap_categories (program : Program) :
    program.filterMap Node.category? = program.categories.filterMap id := by
  unfold categories
  rw [List.filterMap_map]
  rfl

theorem agrees_iff_categories {before after : Program} :
    before.agrees after = true ↔ before.categories = after.categories := by
  unfold agrees
  rw [decide_eq_true_iff]
  constructor
  · exact And.right
  · intro same
    have lengths := congrArg List.length same
    unfold categories at lengths
    rw [List.length_map, List.length_map] at lengths
    exact ⟨lengths, same⟩

/-- Two programs agree just if they have as many statements and the same category at each place, or
none on both sides. -/
theorem agrees_iff {before after : Program} :
    before.agrees after = true ↔
      after.length = before.length ∧
        ∀ (i : Nat) (node changed : Node), before[i]? = some node → after[i]? = some changed →
          changed.category? = node.category? := by
  rw [agrees_iff_categories]
  unfold categories
  constructor
  · intro same
    have lengths := congrArg List.length same
    rw [List.length_map, List.length_map] at lengths
    refine ⟨lengths.symm, fun i node changed here there => ?_⟩
    have atPlace := congrArg (·[i]?) same
    simp only [List.getElem?_map, here, there, Option.map_some, Option.some.injEq] at atPlace
    exact atPlace.symm
  · rintro ⟨lengths, same⟩
    refine List.ext_getElem (by rw [List.length_map, List.length_map, lengths]) ?_
    intro i inBefore inAfter
    rw [List.getElem_map, List.getElem_map]
    rw [List.length_map] at inBefore inAfter
    exact (same i _ _ (List.getElem?_eq_getElem inBefore) (List.getElem?_eq_getElem inAfter)).symm

theorem disagrees_iff {before after : Program} :
    before.agrees after = false ↔
      after.length ≠ before.length ∨
        ∃ (i : Nat) (node changed : Node), before[i]? = some node ∧ after[i]? = some changed ∧
          changed.category? ≠ node.category? := by
  rw [← Bool.not_eq_true, agrees_iff, not_and_or]
  simp only [not_forall, exists_prop]

end Program

namespace Pipeline

variable {p : Pipeline} {plan : Plan} {program after : Program}

theorem optimized?_eq_none_iff :
    p.optimized? program = none ↔
      p.config.effectiveOptions.skipOptimize = false ∧
        program.agrees (p.pass.run program) = false := by
  unfold optimized?
  cases p.config.effectiveOptions.skipOptimize with
  | true => simp
  | false => simp

/-- Whatever a pass has done, if it is let through the categories are those of before. -/
theorem categories_of_optimized? (accepted : p.optimized? program = some after) :
    after.categories = program.categories := by
  unfold optimized? at accepted
  split at accepted
  case isTrue =>
    cases accepted
    rfl
  case isFalse =>
    dsimp only at accepted
    split at accepted
    case isTrue agrees =>
      cases accepted
      exact (Program.agrees_iff_categories.mp agrees).symm
    case isFalse => cases accepted

/-! ## How a compilation ends -/

/-- Nothing was dropped from the text, or dropping is allowed. -/
def LetsThrough (p : Pipeline) (read : Tokens) : Prop :=
  read.warnings = [] ∨ p.config.effectiveOptions.strictLex = false

/-- The threads for the jobs start, or none are needed. -/
def PoolStarts (p : Pipeline) (plan : Plan) : Prop := p.poolFault? plan = none

theorem poolStarts_plan (p : Pipeline) : p.PoolStarts p.plan := by
  unfold PoolStarts poolFault?
  split
  · rfl
  · rfl

theorem PoolStarts.fault_ne {p : Pipeline} {plan : Plan} (starts : p.PoolStarts plan)
    (reason : String) : p.poolFault? plan ≠ some reason := by
  rw [starts]
  exact (Option.some_ne_none reason).symm

/-- How the compilation of a text ends, by what was read of it. -/
inductive Ends (p : Pipeline) (plan : Plan) (read : Tokens) :
    Except CompileError Compiled → Prop
  | rejected (dropped : read.warnings ≠ [])
      (strict : p.config.effectiveOptions.strictLex = true) :
      Ends p plan read (.error (.lex read.warnings))
  | unparsed {e : Located ParseError} (letThrough : p.LetsThrough read)
      (failed : (State.parse {} read.tokens).error? = some e) :
      Ends p plan read (.error (.parse e))
  | unstarted {reason : String} (letThrough : p.LetsThrough read)
      (succeeded : (State.parse {} read.tokens).error? = none)
      (fault : p.poolFault? plan = some reason) :
      Ends p plan read (.error (.executor reason))
  | broken (letThrough : p.LetsThrough read)
      (succeeded : (State.parse {} read.tokens).error? = none)
      (starts : p.PoolStarts plan)
      (refused : p.optimized? (State.parse {} read.tokens).nodes = none) :
      Ends p plan read (.error (.brokenPass p.pass.name
        (p.runJobs plan (State.parse {} read.tokens).jobs).1))
  | done {program : Program} (letThrough : p.LetsThrough read)
      (succeeded : (State.parse {} read.tokens).error? = none)
      (starts : p.PoolStarts plan)
      (accepted : p.optimized? (State.parse {} read.tokens).nodes = some program) :
      Ends p plan read (.ok {
        records := program.records
        report := (p.runJobs plan (State.parse {} read.tokens).jobs).1
        state := (State.parse {} read.tokens).state
        warnings := read.warnings })

theorem compileTokens_ends (p : Pipeline) (plan : Plan) (name : String) (read : Tokens) :
    p.Ends plan read (p.compileTokens plan name read).result := by
  unfold compileTokens
  split
  case isTrue stopped =>
    rw [Bool.and_eq_true, Bool.not_eq_true', List.isEmpty_eq_false_iff] at stopped
    exact .rejected stopped.1 stopped.2
  case isFalse goesOn =>
    have letThrough : p.LetsThrough read := by
      rw [Bool.and_eq_true, Bool.not_eq_true', List.isEmpty_eq_false_iff, not_and_or, not_not,
        Bool.not_eq_true] at goesOn
      exact goesOn
    cases ending : (State.parse {} read.tokens).error? with
    | some e =>
      simp only [ending]
      exact .unparsed letThrough ending
    | none =>
      cases fault : p.poolFault? plan with
      | some reason =>
        simp only [ending, finish, fault]
        exact .unstarted letThrough ending fault
      | none =>
        simp only [ending, finish, fault, proceed]
        cases passed : p.optimized? (State.parse {} read.tokens).nodes with
        | none => exact .broken letThrough ending fault passed
        | some program => exact .done letThrough ending fault passed

theorem compileUnder_ends (p : Pipeline) (plan : Plan) (name text : String) :
    p.Ends plan (Source.ofText name text).tokenize (p.compileUnder plan name text).result :=
  p.compileTokens_ends plan name (Source.ofText name text).tokenize

theorem exists_compiled {name text : String}
    (succeeds : (p.compileUnder plan name text).result.isOk = true) :
    ∃ compiled, (p.compileUnder plan name text).result = .ok compiled := by
  cases result : (p.compileUnder plan name text).result with
  | error e =>
    rw [result] at succeeds
    cases succeeds
  | ok compiled => exact ⟨compiled, rfl⟩

/-- A text that compiles was let through and read to its end, and its records are those of the
program after the pass. -/
theorem program_of_ok {name text : String} {compiled : Compiled}
    (succeeds : (p.compileUnder plan name text).result = .ok compiled) :
    let read := (Source.ofText name text).tokenize
    p.LetsThrough read ∧ (State.parse {} read.tokens).error? = none ∧
      ∃ program : Program, p.optimized? (State.parse {} read.tokens).nodes = some program ∧
        compiled.records = program.records := by
  have ends := p.compileUnder_ends plan name text
  rw [succeeds] at ends
  cases ends with
  | @done program letThrough succeeded _ accepted =>
    exact ⟨letThrough, succeeded, program, accepted, rfl⟩

theorem Ends.broken_iff {read : Tokens} {result : Except CompileError Compiled}
    (ends : p.Ends plan read result) (starts : p.PoolStarts plan)
    (letThrough : p.LetsThrough read)
    (succeeded : (State.parse {} read.tokens).error? = none) :
    (∃ pass report, result = .error (.brokenPass pass report)) ↔
      p.optimized? (State.parse {} read.tokens).nodes = none := by
  cases ends with
  | rejected dropped strict =>
    rcases letThrough with nothing | lenient
    · exact absurd nothing dropped
    · rw [strict] at lenient
      cases lenient
  | unparsed _ failed =>
    rw [failed] at succeeded
    cases succeeded
  | unstarted _ _ fault => exact absurd fault (starts.fault_ne _)
  | broken _ _ _ refused => exact ⟨fun _ => refused, fun _ => ⟨_, _, rfl⟩⟩
  | done _ _ _ accepted => simp [accepted]

/-- The records of a compilation have the categories of the statements that were parsed, in order,
which are those of the constructs in the text: one record for each construct but conditions and
requests for optimization. This is so whatever the pass has done. Where the text is let through and
parsed, the threads for the jobs start and the pass is run, it is refused just if the number of
statements differs after it, or the category of one, or whether one has any. -/
theorem compile_keeps_categories (p : Pipeline) (plan : Plan) (name text : String) :
    let read := (Source.ofText name text).tokenize
    let before := (State.parse {} read.tokens).nodes
    let after := p.pass.run before
    (∀ compiled, (p.compileUnder plan name text).result = .ok compiled →
      compiled.records.map (·.category) = before.filterMap Node.category? ∧
      ∃ blocks : List Block, blocks.flatMap Block.tokens = read.tokens ∧
        compiled.records.map (·.category) = blocks.filterMap Block.category?) ∧
    (p.PoolStarts plan → (State.parse {} read.tokens).error? = none → p.LetsThrough read →
      p.config.effectiveOptions.skipOptimize = false →
      ((∃ pass report, (p.compileUnder plan name text).result = .error (.brokenPass pass report)) ↔
        after.length ≠ before.length ∨
          ∃ (i : Nat) (node changed : Node), before[i]? = some node ∧ after[i]? = some changed ∧
            changed.category? ≠ node.category?)) := by
  intro read before after
  have ends := p.compileUnder_ends plan name text
  constructor
  · intro compiled succeeds
    rw [succeeds] at ends
    cases ends with
    | @done program letThrough succeeded _ accepted =>
      have kept : (Program.records program).map (·.category) = before.filterMap Node.category? := by
        rw [Program.records_category, Program.filterMap_categories,
          categories_of_optimized? accepted, ← Program.filterMap_categories]
      obtain ⟨blocks, whole, reads⟩ := State.exists_reads succeeded
      exact ⟨kept, blocks, whole, kept.trans reads.categories_eq⟩
  · intro starts succeeded letThrough runs
    rw [ends.broken_iff starts letThrough succeeded, optimized?_eq_none_iff, Program.disagrees_iff]
    exact and_iff_right runs

/-- A condition, a declaration, a request, a task, and a character that is dropped. -/
def mixture : String := "if a > let b : t = 1 optimize sync c #"

/-- Leaves a note on every statement. -/
def marking : Pipeline :=
  { ofConfig {} with pass := { name := "mark", run := fun nodes => nodes.map (·.note "seen") } }

/-- Turns programs around. -/
def reversing : Pipeline :=
  { ofConfig {} with pass := { name := "reverse", run := List.reverse } }

theorem mixture_keeps_categories :
    (∃ compiled, (marking.compile "" mixture).result = .ok compiled ∧
      compiled.records.map (·.category) = [.declaration, .task .sync]) ∧
    ∃ pass report, (reversing.compile "" mixture).result = .error (.brokenPass pass report) := by
  let read := (Source.ofText "" mixture).tokenize
  have succeeded : (State.parse {} read.tokens).error? = none := by decide +kernel
  have nodes : (State.parse {} read.tokens).nodes =
      [⟨.conditional "a", ⟨⟨1, 1⟩, ⟨1, 7⟩⟩, []⟩,
        ⟨.declaration "b" "t" "1", ⟨⟨1, 8⟩, ⟨1, 21⟩⟩, []⟩, ⟨.optimize, ⟨⟨1, 22⟩, ⟨1, 30⟩⟩, []⟩,
        ⟨.schedule .sync "c", ⟨⟨1, 31⟩, ⟨1, 37⟩⟩, []⟩] := by decide +kernel
  constructor
  · have succeeds : (marking.compile "" mixture).result.isOk = true := by decide +kernel
    cases result : (marking.compile "" mixture).result with
    | error e =>
      rw [result] at succeeds
      cases succeeds
    | ok compiled =>
      have kept := (compile_keeps_categories marking marking.plan "" mixture).1 compiled result
      refine ⟨compiled, rfl, kept.1.trans ?_⟩
      rw [nodes]
      rfl
  · obtain ⟨-, refused⟩ := compile_keeps_categories reversing reversing.plan "" mixture
    refine (refused reversing.poolStarts_plan succeeded (.inr rfl) rfl).mpr (.inr ?_)
    -- The task comes first, where the condition stood that has no category.
    rw [nodes]
    exact ⟨0, _, _, rfl, rfl, by decide⟩

end Pipeline

end TaskScript
