import TaskScript.SortedMap

/-!
# Jobs

A job is a task that collaborators carry out: at once where the program is read, on a pool of
workers, or on every node of a cluster.
-/

namespace TaskScript

/-- Where a job is carried out. -/
inductive Mode where
  | sync
  | async
  | distributed
deriving DecidableEq

namespace Mode

/-- The name of the mode. -/
def text : Mode → String
  | sync => "sync"
  | async => "async"
  | distributed => "distributed"

end Mode

/-- Named values handed to a collaborator. -/
abbrev Args := SortedMap String String

/-- A task to carry out: what to do, and with which values. -/
structure Job where
  mode : Mode
  payload : String
  args : Args := .empty
deriving DecidableEq

namespace Job

/-- The job with one more value, over one of the same name. -/
def withArg (job : Job) (key value : String) : Job :=
  { job with args := job.args.insert key value }

end Job

end TaskScript
