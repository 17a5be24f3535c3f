import TaskScript.Pass

/-!
# Edits

Single changes to a program, from which passes are put together. A place outside the program
leaves it as it is.
-/

namespace TaskScript

/-- A single change. -/
inductive Edit where
  | identity
  | annotate
  | note (place : Nat) (text : String)
  | truncate (length : Nat)
  | remove (place : Nat)
  | swap (place other : Nat)
  | copy (place other : Nat)
  | push (place : Nat)
deriving DecidableEq

namespace Edit

/-- The program after the change. -/
def apply (program : Program) : Edit → Program
  | identity => Pass.identity.run program
  | annotate => Pass.annotate.run program
  | note place text => program.modify place (·.note text)
  | truncate length => program.take length
  | remove place => program.eraseIdx place
  | swap place other =>
    match program[place]?, program[other]? with
    | some a, some b => (program.set place b).set other a
    | _, _ => program
  | copy place other =>
    match program[other]? with
    | some source => program.modify place ({ · with statement := source.statement })
    | none => program
  | push place =>
    match program[place]? with
    | some node => program ++ [node]
    | none => program

/-- What the change reports. -/
def log (program : Program) : Edit → List LogEntry
  | annotate => Pass.annotate.log program
  | _ => []

/-- What changes report, each one made after those before it. -/
def logAll : Program → List Edit → List LogEntry
  | _, [] => []
  | program, edit :: rest => edit.log program ++ logAll (edit.apply program) rest

end Edit

namespace Pass

/-- The pass that makes changes one after another. -/
def ofEdits (name : String) (edits : List Edit) : Pass where
  name := name
  run program := edits.foldl Edit.apply program
  log program := Edit.logAll program edits

end Pass

end TaskScript
