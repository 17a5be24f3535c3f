import TaskScript.Log
import TaskScript.Program

/-!
# Passes

A pass turns a program into another. It may change the notes on statements, and even statements
within their category, but neither their number nor the category at any place: `Program.agrees`
decides this, and a pass that breaks it is refused. The default pass leaves the note `Optimized` on
what stands before the last request for optimization.
-/

namespace TaskScript

/-- A named change of programs, and what it reports. -/
structure Pass where
  name : String
  run : Program → Program
  log : Program → List LogEntry := fun _ => []

namespace Program

/-- The category at each place. -/
def categories (program : Program) : List (Option Category) := program.map Node.category?

/-- Have both programs as many statements, and the same category at each place? -/
def agrees (before after : Program) : Bool :=
  before.length = after.length ∧ before.categories = after.categories

/-- How many statements stand before the last request for optimization. -/
def lastRequest? (program : Program) : Option Nat :=
  (program.reverse.findIdx? (·.statement = .optimize)).map (program.length - 1 - ·)

end Program

namespace Node

/-- The note of the default pass. -/
def optimizedNote : String := "Optimized"

/-- Does the default pass have something to add to the statement? -/
def isPending (node : Node) : Bool :=
  node.category?.isSome && !node.notes.contains optimizedNote

/-- The statement with one more note. -/
def note (node : Node) (text : String) : Node := { node with notes := node.notes ++ [text] }

/-- The statement with the note of the default pass, if it lacks it. -/
def annotate (node : Node) : Node :=
  if node.isPending then node.note optimizedNote else node

end Node

namespace Pass

/-- The pass that changes nothing. -/
def identity : Pass where
  name := "identity"
  run program := program

/-- Leaves the note on every statement before the last request that belongs to a category and lacks
it. -/
def annotateBefore (program : Program) : Program :=
  match program.lastRequest? with
  | none => program
  | some request => (program.take request).map Node.annotate ++ program.drop request

/-- The default pass. -/
def annotate : Pass where
  name := "annotate"
  run := annotateBefore
  log program :=
    match program.lastRequest? with
    | none => []
    | some request =>
      let count := (program.take request).countP Node.isPending
      [⟨.debug, .optimization,
        "Annotated " ++ Numeral.decimal count ++ " statement(s) before `optimize`"⟩]

end Pass

end TaskScript
