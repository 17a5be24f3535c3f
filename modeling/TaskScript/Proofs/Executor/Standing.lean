import TaskScript.Proofs.Executor.Holding

/-!
# How a job can stand

What a run may hold of a job that has been submitted (`Standing`). A job is carried out on the spot,
or its claim decides all else: without a claim it is in flight and nobody has been asked; once its
task has claimed it, the calls made so far and those to come are the calls of `Job.perform`, and its
one outcome is made, sent and received in turn; once the join has claimed it, nobody will be asked.

A task may give up only after the flag has been raised. Its job is then in flight with nobody at
work on it, and `due` records that the join will come to look at it.

* `Standing.stepTask`: a move of its task leaves a job standing.
* `Standing.receive`, `Standing.cancel`: so do the moves of the join under its number.
-/

namespace TaskScript

namespace Job

theorem perform_of_error {c : Collaborators} {job : Job} {error : JobError}
    (requests : job.requests c = .error error) : job.perform c = ([], .failed error) := by
  simp only [perform, requests]

theorem perform_of_ok {c : Collaborators} {job : Job} {requests : List Request}
    (known : job.requests c = .ok requests) :
    job.perform c = ((job.ask requests).1, .ofResult (job.ask requests).2) := by
  simp only [perform, known]

/-- Only the join reports a job as cancelled. -/
theorem perform_ne_cancelled (c : Collaborators) (job : Job) : (job.perform c).2 ≠ .cancelled := by
  cases known : job.requests c with
  | error error => simp [perform_of_error known]
  | ok requests =>
      rw [perform_of_ok known]
      cases (job.ask requests).2 <;> simp [Status.ofResult]

theorem perform_of_unresolved {c : Collaborators} {job : Job} (mode : job.mode ≠ .distributed)
    (unresolved : c.registry.resolve job.payload = none) :
    job.perform c = ([], .failed (.unresolved job.payload)) := by
  apply perform_of_error
  cases isMode : job.mode with
  | distributed => exact absurd isMode mode
  | sync | async => simp only [Job.requests, isMode, unresolved]

/-- However it is answered, a job that is not for nodes makes one call, to the domain that its payload
resolves to, or none if it resolves to no domain. -/
theorem calls_perform_of_mode_ne {c : Collaborators} {job : Job} (mode : job.mode ≠ .distributed) :
    (job.perform c).1 =
      ((c.registry.resolve job.payload).map fun domain =>
        (⟨.domain domain, job.payload, job.args⟩ : Call)).toList := by
  cases resolved : c.registry.resolve job.payload with
  | none =>
    rw [perform_of_unresolved mode resolved]
    rfl
  | some domain =>
    have requests : job.requests c = .ok [⟨.domain domain, c.ofDomain domain⟩] := by
      cases isMode : job.mode with
      | distributed => exact absurd isMode mode
      | sync | async => simp only [Job.requests, isMode, resolved]
    rw [perform_of_ok requests]
    unfold Job.ask
    cases Request.reply ⟨.domain domain, c.ofDomain domain⟩ job with
    | line | refusal | crash => rfl

@[simp] theorem ticket_id (job : Job) (id : Nat) : (job.ticket id).id = id := rfl

end Job

namespace Stage

/-- Where a task at work will come to, after the calls it has made: all its calls, and how its job
ends. -/
def outlook (job : Job) (made : List Call) : Stage → Option (List Call × Status)
  | asking requests lines =>
    some (made ++ (job.ask requests).1, .ofResult ((job.ask requests).2.map (lines ++ ·)))
  | settled status => some (made, status)
  | pausing | ready | ended => none

/-- How many turns bring a task to its end, if the whole of it takes some turns. -/
def turnsLeft (total : Nat) : Stage → Nat
  | pausing => total
  | ready => total - 1
  | asking requests _ => requests.length + 2
  | settled _ => 1
  | ended => 0

/-- Has the task not looked at its claim? -/
def IsEarly (stage : Stage) : Prop := stage = pausing ∨ stage = ready

theorem outlook_asking_nil (job : Job) (made : List Call) (lines : List String) :
    (asking [] lines).outlook job made = some (made, .completed lines) := by
  simp [outlook, Job.ask, Except.map, Status.ofResult]

theorem outlook_asking_line {job : Job} {request : Request} {text : String}
    (reply : request.reply job = .line text) (made : List Call) (later : List Request)
    (lines : List String) :
    (asking (request :: later) lines).outlook job made =
      (asking later (lines ++ [text])).outlook job (made ++ [request.call job]) := by
  simp only [outlook, Job.ask, reply]
  cases (job.ask later).2 <;> simp [Except.map]

theorem outlook_asking_refusal {job : Job} {request : Request} {error : CollaboratorError}
    (reply : request.reply job = .refusal error) (made : List Call) (later : List Request)
    (lines : List String) :
    (asking (request :: later) lines).outlook job made =
      some (made ++ [request.call job], .failed (request.blame error)) := by
  simp [outlook, Job.ask, reply, Except.map, Status.ofResult]

theorem outlook_asking_crash {job : Job} {request : Request} {text? : Option String}
    (reply : request.reply job = .crash text?) (made : List Call) (later : List Request)
    (lines : List String) :
    (asking (request :: later) lines).outlook job made =
      some (made ++ [request.call job], .failed (.crashed text?)) := by
  simp [outlook, Job.ask, reply, Except.map, Status.ofResult]

end Stage

/-- What a run may hold of a submitted job: `raised` tells whether the flag is raised, and `due`
whether the join is still to look at the job before it waits again. -/
inductive Standing (c : Collaborators) (job : Job) (id : Nat) (raised : Bool) (due : Prop) :
    Holding → Prop
  /-- Carried out where it was submitted. -/
  | inline (mode : job.mode = .sync) :
      Standing c job id raised due
        { finished := [(job.ticket id).outcome (job.perform c).2]
          calls := recordCalls id false (job.perform c).1 }
  /-- Not claimed by anyone. -/
  | unclaimed {stage : Stage} (mode : job.mode ≠ .sync) (seen : raised = true → due)
      (early : stage.IsEarly ∨ raised = true ∧ stage = .ended) :
      Standing c job id raised due
        { tasks := [⟨job.ticket id, job, .pending, stage⟩], inFlight := [job.ticket id] }
  /-- Claimed by its task, which is at work. -/
  | working {stage : Stage} {made : List Call} (mode : job.mode ≠ .sync)
      (leads : stage.outlook job made = some (job.perform c))
      (timely : stage.turnsLeft (job.turns c) ≤ job.turns c) :
      Standing c job id raised due
        { tasks := [⟨job.ticket id, job, .running, stage⟩], inFlight := [job.ticket id]
          calls := recordCalls id true made }
  /-- Ended, with the outcome on its way. -/
  | sent (mode : job.mode ≠ .sync) :
      Standing c job id raised due
        { tasks := [⟨job.ticket id, job, .running, .ended⟩], inFlight := [job.ticket id]
          channel := [(job.ticket id).outcome (job.perform c).2]
          calls := recordCalls id true (job.perform c).1 }
  /-- Ended, with the outcome received. -/
  | received (mode : job.mode ≠ .sync) :
      Standing c job id raised due
        { tasks := [⟨job.ticket id, job, .running, .ended⟩]
          finished := [(job.ticket id).outcome (job.perform c).2]
          calls := recordCalls id true (job.perform c).1 }
  /-- Claimed by the join. The task learns of it when it comes to look. -/
  | cancelled {stage : Stage} (mode : job.mode ≠ .sync) (flag : raised = true)
      (early : stage.IsEarly ∨ stage = .ended) :
      Standing c job id raised due
        { tasks := [⟨job.ticket id, job, .cancelled, stage⟩]
          finished := [(job.ticket id).outcome .cancelled] }

namespace Standing

variable {x : Executor} {c : Collaborators} {job : Job} {id : Nat} {raised : Bool} {due : Prop}

/-- A task at work leaves its job standing. -/
theorem of_setTask {task : PoolTask} {stage : Stage} (made : List Call) (mode : job.mode ≠ .sync)
    (held : x.holding id =
      { tasks := [task], inFlight := [job.ticket id], calls := recordCalls id true made })
    (leads : stage.outlook job made = some (job.perform c))
    (timely : stage.turnsLeft (job.turns c) ≤ job.turns c) :
    Standing c job id raised due
      ((x.setTask ⟨job.ticket id, job, .running, stage⟩).holding id) := by
  have after : (x.setTask ⟨job.ticket id, job, .running, stage⟩).holding id =
      { tasks := [⟨job.ticket id, job, .running, stage⟩], inFlight := [job.ticket id]
        calls := recordCalls id true made } := by
    simp [Executor.holding_setTask, held]
  rw [after]
  exact working mode leads timely

/-- A task that claims its job sets out to do what `Job.perform` says. -/
theorem claim {stage : Stage} (mode : job.mode ≠ .sync)
    (held : x.holding id =
      { tasks := [⟨job.ticket id, job, .pending, stage⟩], inFlight := [job.ticket id] }) :
    Standing x.collaborators job id raised due
      ((x.claim ⟨job.ticket id, job, .pending, stage⟩).holding id) := by
  simp only [Executor.claim, if_true]
  cases known : job.requests x.collaborators with
  | error error =>
      exact of_setTask [] mode held
        (by simp [Stage.outlook, Job.perform_of_error known])
        (by simp [Stage.turnsLeft, Job.turns, known])
  | ok requests =>
      refine of_setTask [] mode held ?_ (by simp [Stage.turnsLeft, Job.turns, known])
      rw [Job.perform_of_ok known]
      cases result : (job.ask requests).2 <;> simp [Stage.outlook, Except.map, result]

/-- A task that makes a request goes on with what `Job.perform` says. -/
theorem ask {request : Request} {later : List Request} {lines : List String} {made : List Call}
    (mode : job.mode ≠ .sync)
    (held : x.holding id =
      { tasks := [⟨job.ticket id, job, .running, .asking (request :: later) lines⟩]
        inFlight := [job.ticket id]
        calls := recordCalls id true made })
    (leads : (Stage.asking (request :: later) lines).outlook job made = some (job.perform c))
    (timely : later.length + 3 ≤ job.turns c) :
    Standing c job id raised due
      ((x.ask ⟨job.ticket id, job, .running, .asking (request :: later) lines⟩ request later
        lines).holding id) := by
  have recorded :
      ({ x with calls := x.calls ++ [⟨id, true, request.call job⟩] } : Executor).holding id =
      { tasks := [⟨job.ticket id, job, .running, .asking (request :: later) lines⟩]
        inFlight := [job.ticket id]
        calls := recordCalls id true (made ++ [request.call job]) } := by
    simp [Executor.holding_recordCall, held, recordCalls]
  simp only [Executor.ask, Job.ticket_id]
  cases reply : request.reply job with
  | line text =>
      rw [Stage.outlook_asking_line reply] at leads
      exact of_setTask _ mode recorded leads (by simp only [Stage.turnsLeft]; omega)
  | refusal error =>
      rw [Stage.outlook_asking_refusal reply] at leads
      exact of_setTask _ mode recorded leads (by simp only [Stage.turnsLeft]; omega)
  | crash text? =>
      rw [Stage.outlook_asking_crash reply] at leads
      exact of_setTask _ mode recorded leads (by simp only [Stage.turnsLeft]; omega)

/-- A move of its task leaves a job standing. -/
theorem stepTask {task : PoolTask} (found : x.task? id = some task)
    (stands : Standing x.collaborators job id x.cancelRaised due (x.holding id)) :
    Standing x.collaborators job id x.cancelRaised due
      ((x.stepTask task).holding id) := by
  rw [Executor.task?_eq] at found
  generalize held : x.holding id = h at stands
  cases stands with
  | inline mode => simp [held] at found
  | @unclaimed stage mode seen early =>
      obtain rfl : ⟨job.ticket id, job, .pending, stage⟩ = task := by simpa [held] using found
      rcases early with (rfl | rfl) | ⟨flag, rfl⟩
      -- The task looks at the flag: raised, it gives up and leaves its job to the join.
      · simp only [Executor.stepTask]
        split
        case isTrue flag =>
          simpa [Executor.holding_setTask, held] using
            unclaimed mode seen (.inr ⟨flag, rfl⟩)
        case isFalse =>
          simpa [Executor.holding_setTask, held] using
            unclaimed mode seen (.inl (.inr rfl))
      · exact claim mode held
      · simpa [Executor.stepTask, held] using unclaimed mode seen (.inr ⟨flag, rfl⟩)
  | @working stage made mode leads timely =>
      obtain rfl : ⟨job.ticket id, job, .running, stage⟩ = task := by simpa [held] using found
      -- A task at work is asking or knows how its job ends; the outlook rules out the rest.
      cases stage with
      | pausing | ready | ended => simp [Stage.outlook] at leads
      | asking requests lines =>
          cases requests with
          | nil =>
              rw [Stage.outlook_asking_nil] at leads
              exact of_setTask made mode held leads
                (Nat.le_trans (by simp [Stage.turnsLeft]) timely)
          | cons request later => exact ask mode held leads timely
      | settled status =>
          obtain ⟨rfl, rfl⟩ : made = (job.perform x.collaborators).1 ∧
              status = (job.perform x.collaborators).2 := by
            simpa [Stage.outlook, Prod.ext_iff] using leads
          simpa [Executor.stepTask, Executor.holding_send, held] using sent mode
  | sent mode =>
      obtain rfl : ⟨job.ticket id, job, .running, .ended⟩ = task := by simpa [held] using found
      simpa [Executor.stepTask, held] using sent mode
  | received mode =>
      obtain rfl : ⟨job.ticket id, job, .running, .ended⟩ = task := by simpa [held] using found
      simpa [Executor.stepTask, held] using received mode
  | @cancelled stage mode flag early =>
      obtain rfl : ⟨job.ticket id, job, .cancelled, stage⟩ = task := by simpa [held] using found
      have dropped : Standing x.collaborators job id x.cancelRaised due
          ((x.setTask ⟨job.ticket id, job, .cancelled, .ended⟩).holding id) := by
        simpa [Executor.holding_setTask, held] using cancelled mode flag (.inr rfl)
      rcases early with (rfl | rfl) | rfl
      · simpa [Executor.stepTask, flag] using dropped
      · simpa [Executor.stepTask, Executor.claim] using dropped
      · simpa [Executor.stepTask, held] using cancelled mode flag (.inr rfl)

/-- Receiving its outcome leaves a job standing. -/
theorem receive {outcome : Outcome} {later : List Outcome}
    (channel : x.channel = outcome :: later)
    (stands : Standing c job outcome.id raised due (x.holding outcome.id)) :
    Standing c job outcome.id raised due
      ((x.receive outcome later).holding outcome.id) := by
  have first : (x.holding outcome.id).channel = outcome :: (x.holding outcome.id).channel.tail := by
    simp [Executor.holding, channel]
  rw [Executor.holding_receive x outcome later channel, if_pos rfl]
  generalize x.holding outcome.id = h at stands first
  cases stands with
  | sent mode =>
      have stands : Standing c job outcome.id raised due _ := received mode
      rw [(List.cons.inj first).1] at stands
      exact stands
  | inline | unclaimed | working | received | cancelled => simp at first

/-- Cancelling a job without a claim leaves it standing. -/
theorem cancel (pending : x.isPending (job.ticket id) = true) (flag : raised = true)
    {later : Prop}
    (stands : Standing c job id raised due (x.holding id)) :
    Standing c job id raised later ((x.cancel (job.ticket id)).holding id) := by
  rw [Executor.holding_cancel x (job.ticket id) id pending, if_pos (Job.ticket_id job id).symm]
  rw [Executor.isPending_eq, Job.ticket_id] at pending
  generalize x.holding id = h at stands pending
  cases stands with
  | unclaimed mode seen early =>
      exact cancelled mode flag (early.imp_right And.right)
  | inline | working | sent | received | cancelled => simp at pending

end Standing

end TaskScript
