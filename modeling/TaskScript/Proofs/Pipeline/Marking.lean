import TaskScript.Proofs.Lexer.Reading
import TaskScript.Proofs.Pipeline.Independence

/-!
# What the default pass marks

The default pass looks backwards for the last request and marks what stands before it. Seen from the
front, it marks a statement just if a request comes later, so that it can be followed statement by
statement along with the blocks of the text. What it adds to a record is a field right after the
label. Requests and conditions leave no record, so places are counted by categories on both sides.

* `Pass.annotateBefore_cons`: the default pass at the first statement.
* `State.Reads.records_at`: the record of a construct, with the pass and without.
* `Pipeline.compile_marks_records`: the records of a compilation with the pass are those of one
  without it, with the mark on those whose construct is followed by a request.
-/

namespace TaskScript

/-! ## The last request seen from the front -/

namespace Program

/-- Is there a request for optimization? -/
def hasRequest (program : Program) : Bool := program.any (·.statement = .optimize)

theorem lastRequest?_cons (node : Node) (later : Program) :
    lastRequest? (node :: later) =
      ((lastRequest? later).map (· + 1)).or
        (if node.statement = .optimize then some 0 else none) := by
  unfold lastRequest?
  rw [List.reverse_cons, List.findIdx?_append]
  cases found : later.reverse.findIdx? (·.statement = .optimize) with
  | none =>
    by_cases request : node.statement = .optimize <;> simp [request]
  | some i =>
    obtain ⟨inside, -⟩ := List.findIdx?_eq_some_iff_findIdx_eq.mp found
    rw [List.length_reverse] at inside
    simp only [Option.some_or, Option.map_some, List.length_cons, Option.some.injEq]
    omega

theorem isSome_lastRequest? (program : Program) :
    program.lastRequest?.isSome = program.hasRequest := by
  unfold lastRequest? hasRequest
  rw [Option.isSome_map, List.findIdx?_isSome, List.any_reverse]

end Program

theorem Node.category?_annotate (node : Node) : node.annotate.category? = node.category? := by
  unfold annotate
  split <;> rfl

namespace Pass

theorem annotateBefore_cons (node : Node) (later : Program) :
    annotateBefore (node :: later) =
      (if Program.hasRequest later then node.annotate else node) :: annotateBefore later := by
  unfold annotateBefore
  rw [Program.lastRequest?_cons, ← Program.isSome_lastRequest?]
  cases Program.lastRequest? later with
  | some request => rfl
  | none =>
    by_cases request : node.statement = .optimize
    · rw [if_pos request]
      rfl
    · rw [if_neg request]
      rfl

/-- What the pass does to statements does not depend on those before them. -/
theorem annotateBefore_append (earlier later : Program) :
    ∃ marked : Program, annotateBefore (earlier ++ later) = marked ++ annotateBefore later ∧
      marked.categories = earlier.categories := by
  induction earlier with
  | nil => exact ⟨[], rfl, rfl⟩
  | cons node earlier ih =>
    obtain ⟨marked, done, kept⟩ := ih
    rw [List.cons_append, annotateBefore_cons, done]
    refine ⟨_ :: marked, rfl, ?_⟩
    have same : (if Program.hasRequest (earlier ++ later) then node.annotate else node).category? =
        node.category? := by
      split
      case isTrue => exact node.category?_annotate
      case isFalse => rfl
    show _ :: marked.categories = _ :: Program.categories earlier
    rw [same, kept]

theorem categories_annotateBefore (program : Program) :
    Program.categories (annotateBefore program) = program.categories := by
  obtain ⟨marked, done, kept⟩ := annotateBefore_append program []
  rw [List.append_nil] at done
  rw [done, ← kept]
  exact congrArg Program.categories (List.append_nil marked)

end Pass

/-! ## The record of a construct -/

namespace Record

variable {category : Category} {node : Node}

theorem lineOf_of_unnoted (unnoted : node.notes = []) :
    lineOf category node = field category.label ++ node.statement.text := by
  unfold lineOf
  rw [unnoted, List.map_nil, String.join_nil, String.append_empty]

theorem lineOf_annotate (categorized : node.category? = some category)
    (unnoted : node.notes = []) :
    lineOf category node.annotate =
      field category.label ++ ("Optimized: " ++ node.statement.text) := by
  have pending : node.isPending = true := by
    simp [Node.isPending, categorized, unnoted]
  unfold Node.annotate lineOf
  rw [if_pos pending]
  simp [Node.note, unnoted, String.append_assoc]
  rfl

end Record

/-- The record of a statement stands behind those of the statements before it. -/
theorem Program.records_at {node : Node} {category : Category} (earlier later : Program)
    (categorized : node.category? = some category) :
    (Program.records (earlier ++ node :: later))[(earlier.filterMap Node.category?).length]? =
      some ⟨category, Record.lineOf category node⟩ := by
  have made : Record.ofNode? node = some ⟨category, Record.lineOf category node⟩ := by
    unfold Record.ofNode?
    rw [categorized]
    rfl
  rw [← records_category, List.length_map]
  unfold records
  rw [List.filterMap_append, List.filterMap_cons_some made,
    List.getElem?_append_right (Nat.le_refl _), Nat.sub_self]
  rfl

/-- Is it a request for optimization? -/
def Block.isRequest : Block → Bool
  | skipped .. => false
  | construct _ keyword _ _ _ => keyword = .optimize

theorem Construct.Spells.isRequest_iff {keyword : Keyword} {operands : List (Located Token)}
    {statement : Statement} (spells : Spells keyword operands statement) :
    statement = .optimize ↔ keyword = .optimize := by
  cases spells <;> simp

namespace State

variable {s : State} {parsed : Parsed}

theorem Reads.hasRequest_eq {blocks : List Block} (reads : s.Reads blocks parsed) :
    Program.hasRequest parsed.nodes = blocks.any Block.isRequest := by
  induction reads with
  | nil s => rfl
  | skipped plain reads ih => exact ih
  | @construct s later lead keyword operands effect blocks parsed leads full done reads ih =>
    have same := (Construct.read_ok done).1.isRequest_iff
    have first : decide (effect.statement = .optimize) = decide (keyword = .optimize) :=
      decide_eq_decide.mpr same
    exact congr (congrArg or first) ih

/-- A construct with a category has its node, which has no notes yet. -/
theorem Reads.at_block {before after : List Block} {block : Block} {category : Category}
    (reads : s.Reads (before ++ block :: after) parsed)
    (categorized : block.category? = some category) :
    ∃ (earlier later : Program) (node : Node), parsed.nodes = earlier ++ node :: later ∧
      earlier.filterMap Node.category? = before.filterMap Block.category? ∧
      node.category? = some category ∧ node.notes = [] ∧
      Program.hasRequest later = after.any Block.isRequest := by
  obtain ⟨first, rest, readsBefore, readsAfter, rfl⟩ := reads.of_append
  cases readsAfter with
  | skipped => cases categorized
  | construct leads full done readsLater =>
    exact ⟨first.nodes, _, _, rfl, readsBefore.categories_eq,
      (Construct.read_ok done).1.category?_eq.trans categorized, rfl, readsLater.hasRequest_eq⟩

/-- The record of a construct, and what it is after the default pass. -/
theorem Reads.records_at {before after : List Block} {block : Block} {category : Category}
    (reads : s.Reads (before ++ block :: after) parsed)
    (categorized : block.category? = some category) :
    let place := (before.filterMap Block.category?).length
    let mark := if after.any Block.isRequest then "Optimized: " else ""
    ∃ rest, (Program.records parsed.nodes)[place]? =
        some ⟨category, Record.field category.label ++ rest⟩ ∧
      (Program.records (Pass.annotateBefore parsed.nodes))[place]? =
        some ⟨category, Record.field category.label ++ (mark ++ rest)⟩ := by
  intro place mark
  obtain ⟨earlier, later, node, nodes, same, isCategory, unnoted, requests⟩ :=
    reads.at_block categorized
  obtain ⟨marked, done, kept⟩ := Pass.annotateBefore_append earlier (node :: later)
  have placeBefore : place = (earlier.filterMap Node.category?).length := by rw [same]
  have placeMarked : place = (marked.filterMap Node.category?).length := by
    rw [placeBefore, Program.filterMap_categories earlier, ← kept,
      ← Program.filterMap_categories marked]
  refine ⟨node.statement.text, ?_, ?_⟩
  · rw [nodes, placeBefore, Program.records_at earlier later isCategory,
      Record.lineOf_of_unnoted unnoted]
  · rw [nodes, done, placeMarked, Pass.annotateBefore_cons, requests]
    unfold mark
    split
    case isTrue =>
      rw [Program.records_at marked _ (node.category?_annotate.trans isCategory),
        Record.lineOf_annotate isCategory unnoted]
    case isFalse =>
      rw [Program.records_at marked _ isCategory, Record.lineOf_of_unnoted unnoted,
        String.empty_append]

end State

namespace Pipeline

variable {p q : Pipeline}

/-! ## With the pass and without -/

theorem optimized?_of_skip (skips : p.config.effectiveOptions.skipOptimize = true)
    (program : Program) : p.optimized? program = some program := by
  unfold optimized?
  rw [if_pos skips]

/-- The default pass is never refused. -/
theorem optimized?_of_annotate (pass : p.pass = .annotate)
    (optimizes : p.config.effectiveOptions.skipOptimize = false) (program : Program) :
    p.optimized? program = some (Pass.annotateBefore program) := by
  have agrees : program.agrees (Pass.annotateBefore program) = true :=
    Program.agrees_iff_categories.mpr (Pass.categories_annotateBefore program).symm
  unfold optimized?
  rw [optimizes, pass]
  exact if_pos agrees

/-- What one pipeline compiles, another does that is as strict and refuses no program. -/
theorem compiles_of_compiles {plan : Plan} {name text : String} (plan' : Plan)
    (strict : p.config.effectiveOptions.strictLex = q.config.effectiveOptions.strictLex)
    {run : Program → Program} (accepts : ∀ program, q.optimized? program = some (run program))
    (starts : q.PoolStarts plan')
    (compiles : ∃ compiled, (p.compileUnder plan name text).result = .ok compiled) :
    ∃ compiled, (q.compileUnder plan' name text).result = .ok compiled := by
  obtain ⟨compiled, succeeds⟩ := compiles
  obtain ⟨letThrough, succeeded, -⟩ := program_of_ok succeeds
  exact ⟨_, (Ends.done (letThrough.congr strict) succeeded starts (accepts _)).compileUnder_eq⟩

theorem records_of_ok {plan : Plan} {name text : String} {compiled : Compiled}
    {run : Program → Program} (accepts : ∀ program, p.optimized? program = some (run program))
    (succeeds : (p.compileUnder plan name text).result = .ok compiled) :
    let parsed := State.parse {} (Source.ofText name text).tokenize.tokens
    parsed.error? = none ∧ compiled.records = (run parsed.nodes).records := by
  obtain ⟨-, succeeded, program, accepted, records⟩ := program_of_ok succeeds
  rw [accepts] at accepted
  cases accepted
  exact ⟨succeeded, records⟩

/-- Where the threads for the jobs start, a text compiles with the default pass just if it compiles
without any. It compiles to records with the same categories, one for each construct of the text
that has one. The record of a construct begins with its label. With the pass it has the mark once,
right after the label, if a request for optimization comes later among the constructs of the text,
and all else is as without the pass. Words among the operands of a construct are no request, nor is
anything in a comment, of which there is no token. -/
theorem compile_marks_records (p q : Pipeline) (plan plan' : Plan) (name text : String)
    (pass : p.pass = .annotate) (optimizes : p.config.effectiveOptions.skipOptimize = false)
    (skips : q.config.effectiveOptions.skipOptimize = true)
    (strict : p.config.effectiveOptions.strictLex = q.config.effectiveOptions.strictLex) :
    (p.PoolStarts plan → q.PoolStarts plan' →
      ((∃ optimized, (p.compileUnder plan name text).result = .ok optimized) ↔
        ∃ plain, (q.compileUnder plan' name text).result = .ok plain)) ∧
    ∀ optimized plain, (p.compileUnder plan name text).result = .ok optimized →
      (q.compileUnder plan' name text).result = .ok plain →
      optimized.records.length = plain.records.length ∧
      ∃ blocks : List Block,
        blocks.flatMap Block.tokens =
          (Segment.cut (Source.ofText name text).glyphs).filterMap Segment.token? ∧
        optimized.records.map (·.category) = blocks.filterMap Block.category? ∧
        plain.records.map (·.category) = blocks.filterMap Block.category? ∧
        ∀ before block after category, blocks = before ++ block :: after →
          block.category? = some category →
          let place := (before.filterMap Block.category?).length
          let mark := if after.any Block.isRequest then "Optimized: " else ""
          ∃ rest, plain.records[place]? =
              some ⟨category, Record.field category.label ++ rest⟩ ∧
            optimized.records[place]? =
              some ⟨category, Record.field category.label ++ (mark ++ rest)⟩ := by
  have accepts := optimized?_of_annotate pass optimizes
  have accepts' := optimized?_of_skip skips
  refine ⟨fun starts starts' => ⟨compiles_of_compiles plan' strict accepts' starts',
    compiles_of_compiles plan strict.symm accepts starts⟩, ?_⟩
  intro optimized plain succeeds succeeds'
  obtain ⟨succeeded, records⟩ := records_of_ok accepts succeeds
  obtain ⟨-, records'⟩ := records_of_ok accepts' succeeds'
  obtain ⟨blocks, whole, reads⟩ := State.exists_reads succeeded
  have categories : plain.records.map (·.category) = blocks.filterMap Block.category? := by
    rw [records', Program.records_category, reads.categories_eq]
  have categories' : optimized.records.map (·.category) = blocks.filterMap Block.category? := by
    rw [records, Program.records_category, Program.filterMap_categories,
      Pass.categories_annotateBefore, ← Program.filterMap_categories, reads.categories_eq]
  have lengths := congrArg List.length (categories'.trans categories.symm)
  rw [List.length_map, List.length_map] at lengths
  refine ⟨lengths, blocks, ?_, categories', categories, ?_⟩
  · rw [whole, Source.tokenize_eq_cut]
  · rintro before block after category rfl categorized
    rw [records, records']
    exact reads.records_at categorized

/-- Runs no pass. -/
def unoptimized : Pipeline := ofConfig { options := { skipOptimize := true } }

/-- A request behind a task, and words like it as the name of a task and in a comment. -/
def requests : String := "async a optimize if b > sync optimize // optimize"

theorem requests_marks_records :
    ∃ optimized plain task,
      ((ofConfig {}).compile "" requests).result = .ok optimized ∧
      (unoptimized.compile "" requests).result = .ok plain ∧
      optimized.records.map (·.category) = [.task .async, .task .sync] ∧
      plain.records[0]? = some ⟨.task .async, "Async Task Scheduled: " ++ task⟩ ∧
      optimized.records[0]? =
        some ⟨.task .async, "Async Task Scheduled: " ++ ("Optimized: " ++ task)⟩ ∧
      optimized.records[1]? = plain.records[1]? := by
  let async : Block := .construct ⟨.keyword .async, ⟨⟨1, 1⟩, ⟨1, 6⟩⟩⟩ .async
    [⟨.identifier "a", ⟨⟨1, 7⟩, ⟨1, 8⟩⟩⟩] rfl rfl
  let request : Block := .construct ⟨.keyword .optimize, ⟨⟨1, 9⟩, ⟨1, 17⟩⟩⟩ .optimize [] rfl rfl
  let condition : Block := .construct ⟨.keyword .condition, ⟨⟨1, 18⟩, ⟨1, 20⟩⟩⟩ .condition
    [⟨.identifier "b", ⟨⟨1, 21⟩, ⟨1, 22⟩⟩⟩, ⟨.operator '>', ⟨⟨1, 23⟩, ⟨1, 24⟩⟩⟩] rfl rfl
  let sync : Block := .construct ⟨.keyword .sync, ⟨⟨1, 25⟩, ⟨1, 29⟩⟩⟩ .sync
    [⟨.keyword .optimize, ⟨⟨1, 30⟩, ⟨1, 38⟩⟩⟩] rfl rfl
  have tokens : (Source.ofText "" requests).tokenize.tokens =
      [async, request, condition, sync].flatMap Block.tokens := by decide +kernel
  rw [Source.tokenize_eq_cut] at tokens
  have succeeds : ((ofConfig {}).compile "" requests).result.isOk = true := by decide +kernel
  obtain ⟨optimized, found⟩ := exists_compiled succeeds
  obtain ⟨both, marks⟩ := compile_marks_records (ofConfig {}) unoptimized (ofConfig {}).plan
    unoptimized.plan "" requests rfl rfl rfl rfl
  obtain ⟨plain, found'⟩ :=
    (both (poolStarts_plan _) unoptimized.poolStarts_plan).mp ⟨optimized, found⟩
  obtain ⟨-, blocks, whole, categories, -, marked⟩ := marks optimized plain found found'
  obtain rfl : blocks = [async, request, condition, sync] :=
    Block.tokens_injective (whole.trans tokens)
  obtain ⟨task, atFirst, atFirst'⟩ := marked [] async [request, condition, sync] _ rfl rfl
  obtain ⟨task', atLast, atLast'⟩ := marked [async, request, condition] sync [] _ rfl rfl
  refine ⟨optimized, plain, task, found, found', categories, atFirst, atFirst', ?_⟩
  change _ = some (Record.mk _ (_ ++ ("" ++ task'))) at atLast'
  rw [String.empty_append] at atLast'
  exact atLast'.trans atLast.symm

end Pipeline

end TaskScript
