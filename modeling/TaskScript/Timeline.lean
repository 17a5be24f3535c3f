import TaskScript.Executor

/-!
# The timeline of a run

The schedule that a pool with a fixed number of workers follows when every call takes its stated
time. Workers take tasks in order of submission; a task first waits for the delay and then claims
its job. A submitter that waits for a call goes on when one is made that had not been made before
the submission, by whichever job. What has not been claimed when the deadline passes is cancelled.
-/

namespace TaskScript

/-- How jobs are run. Times are in milliseconds. -/
structure ExecutorSettings where
  workers : Nat := 4
  delay : Nat := 0
  timeout? : Option Nat := none
deriving DecidableEq

/-- A job, and whether the submitter then waits until a collaborator has been called again. -/
structure Submission where
  job : Job
  awaitsCall : Bool := false

namespace Timeline

/-- Milliseconds in microseconds, in which the timeline counts. -/
def micros (milliseconds : Nat) : Nat := 1000 * milliseconds

/-- How long a job lies before someone who is free takes it up. It is short, and long enough for the
submitter to go on first. -/
def handover : Nat := 1

/-- When a job on the pool is claimed and when it ends. -/
structure Slot where
  id : Nat
  claimed : Nat
  ended : Nat
  /-- How many turns the task takes. -/
  turns : Nat

/-- The pool and the submitter at some moment. -/
structure Moment where
  now : Nat := 0
  nextId : Nat := 0
  /-- When each worker is free again. -/
  free : List Nat
  slots : List Slot := []
  /-- When collaborators are called, by the submitter or on the pool. -/
  calls : List Nat := []

/-- When calls are made that follow one another, from how many milliseconds each takes. -/
def callMoments (start : Nat) : List Nat → List Nat
  | [] => []
  | latency :: rest => start :: callMoments (start + micros latency) rest

/-- The first of some moments that is after a given one. -/
def firstAfter? (moment : Nat) (moments : List Nat) : Option Nat :=
  (moments.filter (moment < ·)).min?

/-- Gives a task to the worker that is free first, who has it until it ends. -/
def assign (free : List Nat) (now cost : Nat) : Nat × List Nat :=
  let soonest := free.foldl min (free.headD now)
  let start := max now soonest
  (start, (start + cost) :: free.erase soonest)

/-- The moment after a submission. -/
def submit (c : Collaborators) (delay : Nat) (m : Moment) (s : Submission) : Moment :=
  let latencies := s.job.latencies c
  let duration := micros (latencies.foldr (· + ·) 0)
  let taken := m.now + handover
  let after := match s.job.mode with
    | .sync =>
      { m with
        now := taken + duration
        nextId := m.nextId + 1
        calls := m.calls ++ callMoments taken latencies }
    | .async | .distributed =>
      let (start, free) := assign m.free taken (delay + duration)
      let claimed := start + delay
      { m with
        nextId := m.nextId + 1
        free := free
        slots := m.slots ++ [⟨m.nextId, claimed, claimed + duration, s.job.turns c⟩]
        calls := m.calls ++ callMoments claimed latencies }
  if s.awaitsCall then
    { after with now := max after.now ((firstAfter? m.now after.calls).getD after.now) }
  else after

/-- The schedule of a run: all submissions, the jobs that end in time, the jobs that are claimed in
time, and then the deadline if some job is left. -/
def schedule (settings : ExecutorSettings) (c : Collaborators) (submissions : List Submission) :
    Schedule :=
  -- More workers than jobs make no difference, and a pool has one at least.
  let workers := min (max settings.workers 1) submissions.length
  let last := submissions.foldl (submit c (micros settings.delay))
    { free := List.replicate workers 0 }
  let inTime (moment : Nat) : Bool :=
    settings.timeout?.elim true fun timeout => moment ≤ last.now + micros timeout
  let ended := (last.slots.filter (inTime ·.ended)).mergeSort (·.ended ≤ ·.ended)
  -- These are running when the deadline passes, and are waited for.
  let claimed := last.slots.filter fun slot => inTime slot.claimed && !inTime slot.ended
  List.replicate (submissions.length + 1) .submitter
    ++ ended.flatMap (fun slot => List.replicate slot.turns (.task slot.id) ++ [.submitter])
    ++ claimed.flatMap (fun slot => [.task slot.id, .task slot.id])
    ++ if last.slots.all (inTime ·.ended) then [] else [.deadline]

end Timeline

namespace Executor

/-- Runs jobs as a pool with these settings does. -/
def runSubmissions (settings : ExecutorSettings) (c : Collaborators)
    (submissions : List Submission) : Executor :=
  runAll c settings.timeout?.isSome (submissions.map (·.job))
    (Timeline.schedule settings c submissions)

end Executor

end TaskScript
