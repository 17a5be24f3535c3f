import TaskScript.Heap
import TaskScript.Job
import TaskScript.Position

/-!
# Programs

A program is a list of statements, each with the place it was read from and the notes that passes
have left on it. Most statements belong to a category, which decides how they are emitted;
conditions and requests for optimization belong to none.
-/

namespace TaskScript

/-- How a task is scheduled from a program. -/
inductive TaskMode where
  | sync
  | async
deriving DecidableEq

namespace TaskMode

/-- The mode of the job that the task becomes. -/
def mode : TaskMode → Mode
  | sync => .sync
  | async => .async

end TaskMode

/-- One statement. -/
inductive Statement where
  | declaration (name type value : String)
  | function (name params : String)
  | conditional (condition : String)
  | quantum (qubit operation : String)
  | ledger (transaction : String)
  | allocate (size : Nat) (handle : Handle)
  | deallocate (handle : String) (size : Nat)
  | schedule (mode : TaskMode) (task : String)
  | optimize
deriving DecidableEq

/-- The kinds of statement that are emitted. -/
inductive Category where
  | quantum
  | ledger
  | declaration
  | function
  | allocation
  | deallocation
  | task (mode : TaskMode)
deriving DecidableEq

namespace Statement

/-- The category of a statement. -/
def category? : Statement → Option Category
  | declaration .. => some .declaration
  | function .. => some .function
  | conditional _ => none
  | quantum .. => some .quantum
  | ledger _ => some .ledger
  | allocate .. => some .allocation
  | deallocate .. => some .deallocation
  | schedule mode _ => some (.task mode)
  | optimize => none

/-- What the statement does, in words. -/
def text : Statement → String
  | declaration name type value =>
    "Declared " ++ name ++ " of type " ++ type ++ " with value " ++ value
  | function name params => "Defined function " ++ name ++ " with parameters " ++ params
  | conditional condition => "if condition: " ++ condition
  | quantum qubit operation =>
    "Quantum operation on qubit " ++ qubit ++ " with operation " ++ operation
  | ledger transaction => "Blockchain operation: " ++ transaction ++ " executed"
  | allocate size handle =>
    "Allocated " ++ Numeral.decimal size ++ " bytes of memory at " ++ handle.text
  | deallocate handle size =>
    "Deallocated " ++ Numeral.decimal size ++ " bytes of memory at " ++ handle
  | schedule .sync task => "Synchronicity task for " ++ task ++ " added to queue"
  | schedule .async task => "Asynchronous task for " ++ task ++ " added to queue"
  | optimize => "Optimization requested for program"

end Statement

/-- A statement in a program. -/
structure Node where
  statement : Statement
  span : Span
  notes : List String := []
deriving DecidableEq

namespace Node

/-- The category of the statement. -/
def category? (node : Node) : Option Category := node.statement.category?

end Node

/-- The statements of a program in order. -/
abbrev Program := List Node

end TaskScript
