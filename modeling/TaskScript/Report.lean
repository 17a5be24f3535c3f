import TaskScript.Collaborator
import TaskScript.Log

/-!
# Reports

What became of jobs. A job is completed with the lines of its collaborators, has failed, or was
cancelled before any collaborator was asked; a report lists the outcomes by the number of the job.
-/

namespace TaskScript

/-- Why a job has failed. -/
inductive JobError where
  | unresolved (payload : String)
  | collaborator (error : CollaboratorError)
  | node (index : Nat) (error : CollaboratorError)
  | noNodes
  | crashed (text? : Option String)
deriving DecidableEq

namespace JobError

/-- The text of the error. -/
def message : JobError → String
  | unresolved payload => "No collaborator handles payload `" ++ payload ++ "`"
  | collaborator error => "Collaborator failed: " ++ error.message
  | node index error => "Node " ++ Numeral.decimal index ++ " failed: " ++ error.message
  | noNodes => "No distributed nodes are configured"
  | crashed text? => "Job panicked: " ++ text?.getD "<non-string panic>"

end JobError

/-- How a job ended. -/
inductive Status where
  | completed (lines : List String)
  | failed (error : JobError)
  | cancelled
deriving DecidableEq

namespace Status

/-- The end of a job that came to some lines or to a failure. -/
def ofResult : Except JobError (List String) → Status
  | .ok lines => completed lines
  | .error error => failed error

/-- Did the job complete? -/
def isCompleted : Status → Bool
  | completed _ => true
  | _ => false

/-- Has the job failed? -/
def isFailed : Status → Bool
  | failed _ => true
  | _ => false

/-- Was the job cancelled? -/
def isCancelled : Status → Bool
  | cancelled => true
  | _ => false

/-- How the job ended, in words. -/
def text : Status → String
  | completed lines => "completed (" ++ String.intercalate "; " lines ++ ")"
  | failed error => "failed (" ++ error.message ++ ")"
  | cancelled => "cancelled"

end Status

/-- What a job is known by. Jobs are numbered in order of submission. A number takes 32 bits where the
program runs, so there are fewer than 2³² jobs. -/
structure Ticket where
  id : Nat
  mode : Mode
  payload : String
deriving DecidableEq

/-- The ticket of a job submitted under a number. -/
def Job.ticket (job : Job) (id : Nat) : Ticket := ⟨id, job.mode, job.payload⟩

namespace Ticket

/-- The number of the job as shown. -/
def idText (ticket : Ticket) : String := "#" ++ Numeral.decimal ticket.id

/-- The mode, the number and the payload, after a word on what happens to the job. -/
def text (ticket : Ticket) (verb : String) : String :=
  verb ++ " " ++ ticket.mode.text ++ " job " ++ ticket.idText ++ ": `" ++ ticket.payload ++ "`"

end Ticket

/-- A job and how it ended. -/
structure Outcome extends Ticket where
  status : Status
deriving DecidableEq

/-- The outcome of a job that ended so. -/
def Ticket.outcome (ticket : Ticket) (status : Status) : Outcome := { ticket with status }

namespace Outcome

/-- The outcome in words. -/
def text (outcome : Outcome) : String :=
  outcome.idText ++ " " ++ outcome.mode.text ++ " `" ++ outcome.payload ++ "`: "
    ++ outcome.status.text

/-- What the end of a job reports: an entry of more weight unless it completed. -/
def log (outcome : Outcome) : LogEntry :=
  ⟨if outcome.status.isCompleted then .info else .warn, .scheduling, outcome.text⟩

end Outcome

/-- What became of all jobs. -/
structure Report where
  outcomes : List Outcome := []
deriving DecidableEq

namespace Report

/-- How many jobs completed. -/
def completed (report : Report) : Nat := report.outcomes.countP (·.status.isCompleted)

/-- How many jobs failed. -/
def failed (report : Report) : Nat := report.outcomes.countP (·.status.isFailed)

/-- How many jobs were cancelled. -/
def cancelled (report : Report) : Nat := report.outcomes.countP (·.status.isCancelled)

/-- Did all jobs complete? -/
def isSuccess (report : Report) : Bool := report.completed = report.outcomes.length

/-- The outcome of the job with a number. -/
def find? (report : Report) (id : Nat) : Option Outcome :=
  report.outcomes.find? (·.id = id)

end Report

end TaskScript
