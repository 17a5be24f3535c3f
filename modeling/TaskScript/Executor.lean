import TaskScript.Execution

/-!
# The executor

Jobs are submitted one after another and then joined. A synchronous job is carried out where it is
submitted. Any other becomes a task of the pool, which on its own time looks at the cancel flag,
claims its job, makes its requests and sends the outcome over a channel. The join receives outcomes
until no job is in flight. Should a deadline pass while it waits, it raises the flag and claims
every job that no task has claimed, one by one, and those are reported as cancelled. A claim is made
once, by whoever comes first, so a cancelled job makes no request and a claimed one is waited for.

Who moves when is not for the executor to decide: `Executor.step` makes the move of one turn, a
schedule is a list of turns, and a turn that has no move to make leaves all as it was. Whatever
schedule a run starts with, `Executor.complete` brings it to its end.

Jobs are counted without a bound here. An executor is meant for fewer than 2³² of them, since a job
is known by a number of 32 bits; up to there the numbers are the same.
-/

namespace TaskScript

/-- Who has taken hold of a job. -/
inductive Claim where
  | pending
  | running
  | cancelled
deriving DecidableEq

/-- How far a task of the pool has come. -/
inductive Stage where
  /-- Waiting for its delay to pass. -/
  | pausing
  /-- Has seen the flag lowered, and goes on to claim its job. -/
  | ready
  /-- Has claimed its job and makes these requests, after the lines already answered. -/
  | asking (requests : List Request) (lines : List String)
  /-- Knows how the job ends, and goes on to send it. -/
  | settled (status : Status)
  /-- Has sent its outcome, or found its job cancelled. -/
  | ended

/-- A job on the pool. -/
structure PoolTask where
  ticket : Ticket
  job : Job
  claim : Claim := .pending
  stage : Stage := .pausing

/-- How far the submitter has come. -/
inductive Phase where
  /-- These jobs are still to be submitted. -/
  | submitting (jobs : List Job)
  /-- Waits for outcomes, with or without a deadline. -/
  | waiting (deadline : Bool)
  /-- The deadline has passed, and the flag is still to be raised. -/
  | expired
  /-- The flag is raised, and these jobs are still to be looked at. -/
  | cancelling (tickets : List Ticket)
  /-- All outcomes are reported. -/
  | returned

/-- A call, the job that it was made for, and whether it was made on the pool. -/
structure CallRecord where
  id : Nat
  onPool : Bool
  call : Call
deriving DecidableEq

/-- Whose move it is. -/
inductive Turn where
  | submitter
  | task (id : Nat)
  | deadline
deriving DecidableEq

/-- An order of moves. -/
abbrev Schedule := List Turn

/-- A run of jobs. -/
structure Executor where
  collaborators : Collaborators
  hasTimeout : Bool
  phase : Phase
  nextId : Nat := 0
  cancelRaised : Bool := false
  tasks : List PoolTask := []
  inFlight : List Ticket := []
  channel : List Outcome := []
  finished : List Outcome := []
  calls : List CallRecord := []
  log : List LogEntry := []

namespace Executor

/-- A run before its first move. -/
def start (collaborators : Collaborators) (hasTimeout : Bool) (jobs : List Job) : Executor where
  collaborators := collaborators
  hasTimeout := hasTimeout
  phase := .submitting jobs

/-- Reports an event. -/
def note (x : Executor) (level : Level) (message : String) : Executor :=
  { x with log := x.log ++ [⟨level, .scheduling, message⟩] }

/-! ## Moves of the submitter -/

/-- Carries out a synchronous job on the spot. -/
def runInline (x : Executor) (ticket : Ticket) (job : Job) : Executor :=
  let (calls, status) := job.perform x.collaborators
  let outcome := ticket.outcome status
  { x with
    calls := x.calls ++ calls.map fun call => ⟨ticket.id, false, call⟩
    log := x.log ++ [outcome.log]
    finished := x.finished ++ [outcome] }

/-- Hands a job to the pool. -/
def spawn (x : Executor) (ticket : Ticket) (job : Job) : Executor :=
  { x with
    tasks := x.tasks ++ [{ ticket, job }]
    inFlight := x.inFlight ++ [ticket] }

/-- Submits a job under the next number. -/
def submit (x : Executor) (job : Job) : Executor :=
  let ticket := job.ticket x.nextId
  let x := { x with nextId := x.nextId + 1 }.note .debug (ticket.text "Submitted")
  match job.mode with
  | .sync => x.runInline ticket job
  | .async | .distributed => x.spawn ticket job

/-- Takes an outcome from the channel. -/
def receive (x : Executor) (outcome : Outcome) (later : List Outcome) : Executor :=
  { x with
    channel := later
    inFlight := x.inFlight.filter (·.id ≠ outcome.id)
    finished := x.finished ++ [outcome] }

/-- Ends the join. Jobs still in flight are reported as lost. -/
def close (x : Executor) : Executor :=
  let lost := x.inFlight.map (·.outcome .cancelled)
  let outcomes := (x.finished ++ lost).mergeSort (·.id ≤ ·.id)
  { x with
    phase := .returned
    inFlight := []
    finished := outcomes
    log := x.log
      ++ x.inFlight.map (fun ticket => ⟨.warn, .scheduling, ticket.text "Lost"⟩)
      ++ [⟨.info, .scheduling, "All " ++ Numeral.decimal outcomes.length ++ " job(s) joined"⟩] }

/-- Has every task come to its end, so that nothing more can be sent? -/
def isDisconnected (x : Executor) : Bool :=
  x.tasks.all fun task => match task.stage with
    | .ended => true
    | _ => false

/-- One round of the join: ends it when nothing is in flight, or else receives an outcome if there
is one. With an empty channel it waits, unless there is nobody left to send. -/
def join (x : Executor) : Executor :=
  if x.inFlight.isEmpty then x.close
  else match x.channel with
    | outcome :: later => x.receive outcome later
    -- Nothing has come yet: the join waits while anyone can still send.
    | [] => if x.isDisconnected then x.close else x

/-- Raises the flag, and goes on to look at every job in flight. -/
def raiseFlag (x : Executor) : Executor :=
  { x with phase := .cancelling x.inFlight, cancelRaised := true }

/-- Is the job of the ticket still without a claim? -/
def isPending (x : Executor) (ticket : Ticket) : Bool :=
  x.tasks.any fun task => task.ticket.id = ticket.id && task.claim = .pending

/-- Cancels a job that no task has claimed, and leaves any other in flight. -/
def cancel (x : Executor) (ticket : Ticket) : Executor :=
  if x.isPending ticket then
    let mark (task : PoolTask) : PoolTask :=
      if task.ticket.id = ticket.id then { task with claim := .cancelled } else task
    let x := { x with
      tasks := x.tasks.map mark
      inFlight := x.inFlight.filter (·.id ≠ ticket.id)
      finished := x.finished ++ [ticket.outcome .cancelled] }
    x.note .warn (ticket.text "Cancelled")
  else x

/-- After all jobs in flight have been looked at, waits for those already running. -/
def resume (x : Executor) : Executor :=
  let x := { x with phase := .waiting false }
  if x.inFlight.isEmpty then x
  else x.note .info
    ("Waiting for " ++ Numeral.decimal x.inFlight.length ++ " job(s) already running")

/-- The move of the submitter. -/
def stepSubmitter (x : Executor) : Executor :=
  match x.phase with
  | .submitting [] => { x with phase := .waiting x.hasTimeout }
  | .submitting (job :: later) => { x with phase := .submitting later }.submit job
  | .waiting _ => x.join
  | .expired => x.raiseFlag
  | .cancelling [] => x.resume
  | .cancelling (ticket :: later) => { x with phase := .cancelling later }.cancel ticket
  | .returned => x

/-- The deadline passes. It is noticed only while the join waits on an empty channel. -/
def stepDeadline (x : Executor) : Executor :=
  match x.phase, x.inFlight, x.channel with
  | .waiting true, _ :: _, [] =>
    { x with phase := .expired }.note .warn
      ("Timed out with " ++ Numeral.decimal x.inFlight.length ++ " job(s) unfinished")
  | _, _, _ => x

/-! ## Moves of the pool -/

/-- Replaces the task with the same number. -/
def setTask (x : Executor) (task : PoolTask) : Executor :=
  { x with
    tasks := x.tasks.map fun known => if known.ticket.id = task.ticket.id then task else known }

/-- Gives up a task whose job is cancelled. -/
def abandon (x : Executor) (task : PoolTask) : Executor :=
  (x.setTask { task with stage := .ended }).note .debug
    ("Dropping cancelled job " ++ task.ticket.idText)

/-- Settles how the job of a task ends. -/
def settle (x : Executor) (task : PoolTask) (status : Status) : Executor :=
  let x := x.setTask { task with stage := .settled status }
  { x with log := x.log ++ [(task.ticket.outcome status).log] }

/-- Claims the job of a task. -/
def claim (x : Executor) (task : PoolTask) : Executor :=
  if task.claim = .pending then
    let task := { task with claim := .running }
    match task.job.requests x.collaborators with
    | .error error => x.settle task (.failed error)
    | .ok requests => x.setTask { task with stage := .asking requests [] }
  else x.abandon task

/-- Makes the next request of a task. -/
def ask (x : Executor) (task : PoolTask) (request : Request) (later : List Request)
    (lines : List String) : Executor :=
  let made : CallRecord := ⟨task.ticket.id, true, request.call task.job⟩
  let x := { x with calls := x.calls ++ [made] }
  match request.reply task.job with
  | .line text => x.setTask { task with stage := .asking later (lines ++ [text]) }
  | .refusal error => x.settle task (.failed (request.blame error))
  | .crash text? => x.settle task (.failed (.crashed text?))

/-- Sends the outcome of a task. -/
def send (x : Executor) (task : PoolTask) (status : Status) : Executor :=
  let x := x.setTask { task with stage := .ended }
  { x with channel := x.channel ++ [task.ticket.outcome status] }

/-- The move of a task. -/
def stepTask (x : Executor) (task : PoolTask) : Executor :=
  match task.stage with
  | .pausing =>
    -- A task that sees the flag lowered may still find its job cancelled when it comes to claim it.
    if x.cancelRaised then x.abandon task else x.setTask { task with stage := .ready }
  | .ready => x.claim task
  | .asking [] lines => x.settle task (.completed lines)
  | .asking (request :: later) lines => x.ask task request later lines
  | .settled status => x.send task status
  | .ended => x

/-! ## Runs -/

/-- The task with a number. -/
def task? (x : Executor) (id : Nat) : Option PoolTask := x.tasks.find? (·.ticket.id = id)

/-- The move of a turn. -/
def step (x : Executor) : Turn → Executor
  | .submitter => x.stepSubmitter
  | .deadline => x.stepDeadline
  | .task id =>
    match x.task? id with
    | some task => x.stepTask task
    | none => x

/-- The moves of a schedule, in order. -/
def run (x : Executor) (schedule : Schedule) : Executor := schedule.foldl step x

/-- Is the join over? -/
def isReturned (x : Executor) : Bool :=
  match x.phase with
  | .returned => true
  | _ => false

/-- How many turns the submitter needs until it waits for others. -/
def ownTurns (x : Executor) : Nat :=
  match x.phase with
  | .submitting jobs => jobs.length + 1
  | .expired => x.inFlight.length + 2
  | .cancelling tickets => tickets.length + 1
  | .waiting _ | .returned => 0

/-- The rest of a schedule once the submitter waits: every task whose job is not cancelled goes to
its end, and then all outcomes are received. -/
def closing (x : Executor) : Schedule :=
  let live := x.tasks.filter (·.claim ≠ .cancelled)
  live.flatMap (fun task =>
      List.replicate (task.job.turns x.collaborators) (.task task.ticket.id))
    ++ List.replicate (x.inFlight.length + 1) .submitter

/-- Brings a run to its end. -/
def complete (x : Executor) : Executor :=
  if x.isReturned then x
  else
    let x := x.run (List.replicate x.ownTurns .submitter)
    x.run x.closing

/-- The outcomes reported so far. -/
def report (x : Executor) : Report := ⟨x.finished⟩

/-- A whole run under a schedule. -/
def runAll (collaborators : Collaborators) (hasTimeout : Bool) (jobs : List Job)
    (schedule : Schedule) : Executor :=
  ((start collaborators hasTimeout jobs).run schedule).complete

end Executor

end TaskScript
