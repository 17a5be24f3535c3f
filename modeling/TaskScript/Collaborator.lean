import TaskScript.Job
import TaskScript.Registry
import TaskScript.Text.Numeral

/-!
# Collaborators

A collaborator carries out operations outside the program. It is asked with the name of a task and
some named values, and answers with a line for the log, a refusal, or a crash, which is caught and
told like a failure. A call also takes time, which only decides what happens at once and what is
still to be done when a deadline passes.

The answer is a function of the task and its values. A collaborator may keep a state of its own or
look at a clock, but the program sees nothing of that. A job is told the replies to its own calls and
no others, and they decide how that job ends and whether its next node is asked. No reply decides
which jobs there are, what a job is numbered, whom another job asks, or when anything happens. What
is said of numbers, of order and of calls is therefore said of whatever replies come, and whoever
answers the same call differently at another time is a different collaborator then.
-/

namespace TaskScript

/-- Why a collaborator refuses. -/
inductive CollaboratorError where
  | missingArg (key : String)
  | rejected (reason : String)
deriving DecidableEq

namespace CollaboratorError

/-- The text of the error. -/
def message : CollaboratorError → String
  | missingArg key => "Missing argument `" ++ key ++ "`"
  | rejected reason => "Operation rejected: " ++ reason

end CollaboratorError

/-- What comes back from a call. A crash may leave a text behind. -/
inductive Reply where
  | line (text : String)
  | refusal (error : CollaboratorError)
  | crash (text? : Option String)
deriving DecidableEq

/-- Carries out operations. -/
structure Collaborator where
  /-- The answer to a task and its values. -/
  answer : String → Args → Reply
  /-- How many milliseconds a call takes. -/
  latency : Nat := 0

namespace Collaborator

/-- Goes on with the value of a key, or refuses for want of it. -/
def requiring (args : Args) (key : String) (answer : String → Reply) : Reply :=
  match args.find? key with
  | some value => answer value
  | none => .refusal (.missingArg key)

/-- Stands in for a quantum processor. -/
def quantumStub : Collaborator where
  answer _ args :=
    requiring args "qubit" fun qubit =>
      requiring args "operation" fun operation =>
        .line ("Quantum operation on qubit " ++ qubit ++ " with " ++ operation)

/-- Stands in for a ledger. -/
def ledgerStub : Collaborator where
  answer _ args :=
    requiring args "transaction" fun transaction =>
      .line ("Blockchain operation executed: " ++ transaction)

/-- Stands in for the node with the given number. -/
def nodeStub (index : Nat) : Collaborator where
  answer task _ := .line ("Node " ++ Numeral.decimal index ++ " executed: " ++ task)

/-- Answers with the name of the task. -/
def echo : Collaborator where
  answer task _ := .line task

/-- Answers with the name of the task after some milliseconds. -/
def slowEcho (latency : Nat) : Collaborator := { echo with latency }

/-- Always answers the same. -/
def always (reply : Reply) : Collaborator where
  answer _ _ := reply

end Collaborator

/-- Everyone who can be asked. -/
structure Collaborators where
  quantum : Collaborator
  ledger : Collaborator
  nodes : List Collaborator
  registry : Registry

namespace Collaborators

/-- Stand-ins for each domain and for the given number of nodes. -/
def stubs (nodes : Nat) : Collaborators where
  quantum := .quantumStub
  ledger := .ledgerStub
  nodes := (List.range nodes).map .nodeStub
  registry := .standard

/-- The most nodes that a list can be asked to hold: each takes 16 bytes, and a list is shorter than
2⁶³ bytes. -/
def nodeLimit : Nat := 576460752303423487

/-- The stand-ins, if the nodes can be listed. That there is memory for a list that can be asked for
is taken for granted. -/
def stubs? (nodes : Nat) : Option Collaborators :=
  if nodes ≤ nodeLimit then some (stubs nodes) else none

/-- The collaborator of a domain. -/
def ofDomain (c : Collaborators) : Domain → Collaborator
  | .quantum => c.quantum
  | .ledger => c.ledger

end Collaborators

end TaskScript
