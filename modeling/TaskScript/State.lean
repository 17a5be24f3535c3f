import TaskScript.Heap
import TaskScript.Job
import TaskScript.Program

/-!
# The state of a compilation

What constructs leave behind for those after them: the symbols declared, the heap, the last
operation on each qubit and the transactions made. The latest quantum operation and the latest
transaction are kept apart, since jobs are handed them as arguments.
-/

namespace TaskScript

/-- A declared name: its type and its value as written. -/
structure Symbol where
  type : String
  value : String
deriving DecidableEq

/-- What is known while a program is read. -/
structure State where
  symbols : SortedMap String Symbol := .empty
  heap : Heap := {}
  qubits : SortedMap String String := .empty
  transactions : SortedMap String String := .empty
  lastQuantum : Option (String × String) := none
  lastTransaction : Option String := none
deriving DecidableEq

namespace State

/-- Declares a symbol, over one of the same name. Gives the symbol that was there before. -/
def declare (s : State) (name type value : String) : Option Symbol × State :=
  let (old?, symbols) := s.symbols.put name ⟨type, value⟩
  (old?, { s with symbols })

/-- Applies an operation to a qubit. -/
def applyQuantum (s : State) (qubit operation : String) : State :=
  { s with
    qubits := s.qubits.insert qubit operation
    lastQuantum := some (qubit, operation) }

/-- Makes a transaction. -/
def transact (s : State) (transaction : String) : State :=
  { s with
    transactions := s.transactions.insert transaction "executed"
    lastTransaction := some transaction }

/-- The values that a job is handed: the latest quantum operation and the latest transaction. -/
def jobArgs (s : State) : Args :=
  let quantum : Args := match s.lastQuantum with
    | some (qubit, operation) =>
      SortedMap.insert (SortedMap.insert .empty "qubit" qubit) "operation" operation
    | none => .empty
  match s.lastTransaction with
  | some transaction => quantum.insert "transaction" transaction
  | none => quantum

/-- The job of a task that is scheduled now. -/
def job (s : State) (mode : TaskMode) (task : String) : Job := ⟨mode.mode, task, s.jobArgs⟩

end State

end TaskScript
