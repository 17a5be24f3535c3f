import TaskScript.Log
import TaskScript.Program

/-!
# Records

The output of a compilation: one line for each statement that belongs to a category, in program
order. A line is the label of the category, the notes on the statement and the statement in words.
-/

namespace TaskScript

namespace Category

/-- The label at the front of a record. -/
def label : Category → String
  | quantum => "Quantum Operation"
  | ledger => "Blockchain Transaction"
  | declaration => "Declare Variable"
  | function => "Define Function"
  | allocation => "Memory Allocation"
  | deallocation => "Memory Deallocation"
  | task .sync => "Sync Task Scheduled"
  | task .async => "Async Task Scheduled"

end Category

/-- One line of output. -/
structure Record where
  category : Category
  line : String
deriving DecidableEq

namespace Record

/-- A part of a line with the colon after it. -/
def field (text : String) : String := text ++ ": "

/-- The line of a statement. -/
def lineOf (category : Category) (node : Node) : String :=
  field category.label ++ String.join (node.notes.map field) ++ node.statement.text

/-- The record of a statement, if it belongs to a category. -/
def ofNode? (node : Node) : Option Record :=
  node.category?.map fun category => ⟨category, lineOf category node⟩

/-- The output text: each line ended by a line feed. -/
def emit (records : List Record) : String :=
  String.ofList (records.flatMap fun record => record.line.toList ++ ['\n'])

end Record

namespace Program

/-- The records of a program. -/
def records (program : Program) : List Record := program.filterMap Record.ofNode?

/-- What making the records reports. -/
def recordsLog (program : Program) : List LogEntry :=
  let made := program.records.length
  [⟨.debug, .generation,
    "Generated " ++ Numeral.decimal made ++ " record(s), "
      ++ Numeral.decimal (program.length - made) ++ " statement(s) without category"⟩]

end Program

end TaskScript
