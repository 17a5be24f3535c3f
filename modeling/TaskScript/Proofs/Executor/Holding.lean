import Mathlib.Data.List.Basic
import TaskScript.Executor

/-!
# What a run holds of one job

A run keeps tasks, tickets, outcomes and calls in lists that all jobs share. Everything in them
carries the number of its job, so a run can be looked at one number at a time (`Executor.holding`).
The lemmas here say what each move does to that look: a move acts under one number at most and
leaves every other holding as it was.
-/

namespace TaskScript

/-- All that a run holds under one number. -/
@[ext]
structure Holding where
  tasks : List PoolTask := []
  inFlight : List Ticket := []
  channel : List Outcome := []
  finished : List Outcome := []
  calls : List CallRecord := []

/-- The calls made for a job, as a run records them. -/
def recordCalls (id : Nat) (onPool : Bool) (calls : List Call) : List CallRecord :=
  calls.map (⟨id, onPool, ·⟩)

namespace Executor

/-- What the run holds under a number. -/
def holding (x : Executor) (id : Nat) : Holding where
  tasks := x.tasks.filter (·.ticket.id = id)
  inFlight := x.inFlight.filter (·.id = id)
  channel := x.channel.filter (·.id = id)
  finished := x.finished.filter (·.id = id)
  calls := x.calls.filter (·.id = id)

theorem task?_eq (x : Executor) (id : Nat) : x.task? id = (x.holding id).tasks.head? := by
  simp [task?, holding]

theorem ticket_id_of_task? {x : Executor} {id : Nat} {task : PoolTask}
    (found : x.task? id = some task) : task.ticket.id = id := by
  simpa using List.find?_some found

theorem mem_holding_inFlight {x : Executor} {ticket : Ticket} (inFlight : ticket ∈ x.inFlight) :
    ticket ∈ (x.holding ticket.id).inFlight := List.mem_filter.2 ⟨inFlight, by simp⟩

theorem mem_holding_channel {x : Executor} {outcome : Outcome} {later : List Outcome}
    (channel : x.channel = outcome :: later) : outcome ∈ (x.holding outcome.id).channel := by
  simp [holding, channel]

@[simp] theorem holding_note (x : Executor) (level : Level) (message : String) (id : Nat) :
    (x.note level message).holding id = x.holding id := rfl

@[simp] theorem collaborators_note (x : Executor) (level : Level) (message : String) :
    (x.note level message).collaborators = x.collaborators := rfl

theorem holding_runInline (x : Executor) (ticket : Ticket) (job : Job) (id : Nat) :
    (x.runInline ticket job).holding id =
      if id = ticket.id then
        { x.holding id with
          finished := (x.holding id).finished ++
            [ticket.outcome (job.perform x.collaborators).2]
          calls := (x.holding id).calls ++
            recordCalls ticket.id false (job.perform x.collaborators).1 }
      else x.holding id := by
  split
  case isTrue same =>
    subst same
    simp [holding, runInline, Ticket.outcome, recordCalls, List.filter_map, Function.comp_def]
  case isFalse other =>
    simp [holding, runInline, Ticket.outcome, List.filter_map, Function.comp_def, Ne.symm other]

theorem holding_spawn (x : Executor) (ticket : Ticket) (job : Job) (id : Nat) :
    (x.spawn ticket job).holding id =
      if id = ticket.id then
        { x.holding id with
          tasks := (x.holding id).tasks ++ [{ ticket, job }]
          inFlight := (x.holding id).inFlight ++ [ticket] }
      else x.holding id := by
  split
  case isTrue same =>
    subst same
    simp [holding, spawn]
  case isFalse other => simp [holding, spawn, Ne.symm other]

/-- Taking one number out of flight leaves the tickets of any other. -/
theorem filter_remove_of_ne (tickets : List Ticket) {id number : Nat} (other : id ≠ number) :
    (tickets.filter (·.id ≠ number)).filter (·.id = id) = tickets.filter (·.id = id) := by
  rw [List.filter_filter]
  apply List.filter_congr
  intro ticket _
  by_cases same : ticket.id = id <;> simp [same, other]

theorem holding_receive (x : Executor) (outcome : Outcome) (later : List Outcome)
    (channel : x.channel = outcome :: later) (id : Nat) :
    (x.receive outcome later).holding id =
      if id = outcome.id then
        { x.holding id with
          inFlight := []
          channel := (x.holding id).channel.tail
          finished := (x.holding id).finished ++ [outcome] }
      else x.holding id := by
  split
  case isTrue same =>
    subst same
    simp [holding, receive, channel, List.filter_filter]
  case isFalse other =>
    have inFlight := filter_remove_of_ne x.inFlight other
    simp_all [holding, receive, Ne.symm other]

/-- Changing the tasks of one number is seen under that number only. -/
theorem filter_mapAt (tasks : List PoolTask) (number id : Nat) (change : PoolTask → PoolTask)
    (keeps : ∀ task, task.ticket.id = number → (change task).ticket.id = number) :
    (tasks.map fun task => if task.ticket.id = number then change task else task).filter
        (·.ticket.id = id) =
      if id = number then (tasks.filter (·.ticket.id = id)).map change
      else tasks.filter (·.ticket.id = id) := by
  induction tasks with
  | nil => simp
  | cons task rest ih =>
      simp only [List.map_cons, List.filter_cons, ih]
      by_cases changed : task.ticket.id = number
      · have kept := keeps task changed
        by_cases same : id = number
        · simp [changed, kept, same]
        · simp [changed, kept, same, Ne.symm same]
      · by_cases same : id = number
        · simp [changed, same]
        · simp [changed, same]

theorem holding_setTask (x : Executor) (task : PoolTask) (id : Nat) :
    (x.setTask task).holding id =
      if id = task.ticket.id then
        { x.holding id with tasks := (x.holding id).tasks.map fun _ => task }
      else x.holding id := by
  have tasks := filter_mapAt x.tasks task.ticket.id id (fun _ => task) (fun _ _ => rfl)
  split at tasks <;> simp_all [holding, setTask]

theorem holding_recordCall (x : Executor) (record : CallRecord) (id : Nat) :
    { x with calls := x.calls ++ [record] }.holding id =
      if id = record.id then
        { x.holding id with calls := (x.holding id).calls ++ [record] }
      else x.holding id := by
  split
  case isTrue same =>
    subst same
    simp [holding]
  case isFalse other => simp [holding, Ne.symm other]

theorem holding_send (x : Executor) (task : PoolTask) (status : Status) (id : Nat) :
    (x.send task status).holding id =
      if id = task.ticket.id then
        { x.holding id with
          tasks := (x.holding id).tasks.map fun _ => { task with stage := .ended }
          channel := (x.holding id).channel ++ [task.ticket.outcome status] }
      else x.holding id := by
  have tasks := filter_mapAt x.tasks task.ticket.id id
    (fun _ => { task with stage := .ended }) (fun _ _ => rfl)
  split
  case isTrue same =>
    subst same
    simp_all [holding, send, setTask, Ticket.outcome]
  case isFalse other =>
    simp_all [holding, send, setTask, Ticket.outcome, Ne.symm other]

@[simp] theorem holding_abandon (x : Executor) (task : PoolTask) (id : Nat) :
    (x.abandon task).holding id = (x.setTask { task with stage := .ended }).holding id := rfl

@[simp] theorem holding_settle (x : Executor) (task : PoolTask) (status : Status) (id : Nat) :
    (x.settle task status).holding id =
      (x.setTask { task with stage := .settled status }).holding id := rfl

/-- Whether a job is without a claim is seen under its number. -/
theorem isPending_eq (x : Executor) (ticket : Ticket) :
    x.isPending ticket = (x.holding ticket.id).tasks.any (·.claim = .pending) := by
  simp [isPending, holding, List.any_filter]

theorem holding_cancel (x : Executor) (ticket : Ticket) (id : Nat)
    (pending : x.isPending ticket = true) :
    (x.cancel ticket).holding id =
      if id = ticket.id then
        { x.holding id with
          tasks := (x.holding id).tasks.map ({ · with claim := .cancelled })
          inFlight := []
          finished := (x.holding id).finished ++ [ticket.outcome .cancelled] }
      else x.holding id := by
  have tasks := filter_mapAt x.tasks ticket.id id ({ · with claim := .cancelled })
    (fun _ same => same)
  simp only [cancel, if_pos pending, holding_note]
  split
  case isTrue same =>
    subst same
    simp_all [holding, List.filter_filter, Ticket.outcome]
  case isFalse other =>
    have inFlight := filter_remove_of_ne x.inFlight other
    simp_all [holding, Ticket.outcome, Ne.symm other]

/-- The end of a join with nothing in flight only orders the outcomes. -/
theorem holding_close (x : Executor) (id : Nat) (inFlight : x.inFlight = [])
    (few : (x.holding id).finished.length ≤ 1) : x.close.holding id = x.holding id := by
  have reordered : (x.finished.mergeSort (·.id ≤ ·.id)).filter (·.id = id) =
      x.finished.filter (·.id = id) := by
    have perm := (List.mergeSort_perm x.finished (·.id ≤ ·.id)).filter (·.id = id)
    change (x.finished.filter (·.id = id)).length ≤ 1 at few
    generalize x.finished.filter (·.id = id) = outcomes at perm few ⊢
    cases outcomes with
    | nil => exact List.perm_nil.1 perm
    | cons outcome rest =>
        obtain rfl : rest = [] := by simpa using few
        exact List.perm_singleton.1 perm
  simp [holding, close, inFlight, reordered]

/-- A task's move acts under the number of the task only. -/
theorem holding_stepTask_of_ne (x : Executor) (task : PoolTask) (id : Nat)
    (other : id ≠ task.ticket.id) : (x.stepTask task).holding id = x.holding id := by
  simp only [stepTask, claim, ask]
  repeat' split
  all_goals simp [holding_setTask, holding_recordCall, holding_send, other]

/-- A task's move touches the tasks, the channel, the calls and the log, and nothing else. -/
theorem stepTask_eq (x : Executor) (task : PoolTask) :
    ∃ tasks channel calls log, x.stepTask task = { x with tasks, channel, calls, log } := by
  simp only [stepTask, claim, ask]
  repeat' split
  all_goals exact ⟨_, _, _, _, rfl⟩

end Executor

end TaskScript
