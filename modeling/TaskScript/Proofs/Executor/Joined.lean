import TaskScript.Proofs.Executor.Invariant

/-!
# What a joined run reports

Once the join is over nothing is in flight, so every job has come to its one outcome: it was
cancelled with nobody asked, or it was carried out just as `Job.perform` says (`Standing.concluded`).

* `Executor.report_lists_every_job`: the report has one outcome for each job, in order of submission
  and under its own number.
* `Executor.report_isolates_jobs`: no job is told by another. Each is cancelled or ends as it would
  have ended alone, and nobody is asked after the join.
-/

namespace TaskScript

/-- A job that is not in flight has its one outcome. It was cancelled, or the calls made for it and
its status are those of `Job.perform`. -/
theorem Standing.concluded {c : Collaborators} {job : Job} {id : Nat} {raised : Bool} {due : Prop}
    {held : Holding} (stands : Standing c job id raised due held) (landed : held.inFlight = []) :
    ∃ status, held.finished = [(job.ticket id).outcome status] ∧
      (status = .cancelled ∧ held.calls.map (·.call) = [] ∧ job.mode ≠ .sync ∧ raised = true ∨
        status = (job.perform c).2 ∧ held.calls.map (·.call) = (job.perform c).1) := by
  cases stands with
  | inline mode => exact ⟨_, rfl, .inr ⟨rfl, by simp [recordCalls, Function.comp_def]⟩⟩
  | received mode => exact ⟨_, rfl, .inr ⟨rfl, by simp [recordCalls, Function.comp_def]⟩⟩
  | cancelled mode flag early => exact ⟨_, rfl, .inl ⟨rfl, rfl, mode, flag⟩⟩
  | unclaimed | working | sent => cases landed

/-- The task of a job that is not in flight has ended, or will find its job cancelled. -/
theorem Standing.idle {c : Collaborators} {job : Job} {id : Nat} {raised : Bool} {due : Prop}
    {held : Holding} (stands : Standing c job id raised due held) (landed : held.inFlight = [])
    {task : PoolTask} (isTask : task ∈ held.tasks) :
    task.stage = .ended ∨ task.claim = .cancelled ∧ task.stage.IsEarly := by
  cases stands with
  | inline mode => cases isTask
  | received mode => exact .inl (by simp [List.mem_singleton.1 isTask])
  | cancelled mode flag early =>
      obtain rfl := List.mem_singleton.1 isTask
      exact early.symm.imp_right fun early => ⟨rfl, early⟩
  | unclaimed | working | sent => cases landed

namespace Executor

variable {c : Collaborators} {timeout : Bool} {jobs : List Job} {x : Executor}

/-- The calls made so far for the job with a number. -/
def callsFor (x : Executor) (id : Nat) : List Call := (x.calls.filter (·.id = id)).map (·.call)

theorem find?_of_filter {id : Nat} {outcome : Outcome}
    (only : x.finished.filter (·.id = id) = [outcome]) : x.report.find? id = some outcome := by
  rw [report, Report.find?, ← List.head?_filter, only]
  rfl

theorem isReturned_iff : x.isReturned = true ↔ x.phase = .returned := by
  unfold isReturned
  split <;> simp_all

namespace Consistent

/-- Once the join is over every job has its one outcome. -/
theorem concluded (consistent : Consistent c timeout jobs x) (returned : x.phase = .returned)
    {id : Nat} {job : Job} (submitted : jobs[id]? = some job) :
    ∃ status, x.finished.filter (·.id = id) = [(job.ticket id).outcome status] ∧
      (status = .cancelled ∧ x.callsFor id = [] ∧ job.mode ≠ .sync ∧ timeout = true ∨
        status = (job.perform c).2 ∧ x.callsFor id = (job.perform c).1) := by
  have count : x.nextId = jobs.length := by
    have fits := consistent.control.phase
    simpa only [Control.PhaseFits, Executor.control, returned] using fits
  have before : id < x.nextId := count ▸ (List.getElem?_eq_some_iff.1 submitted).1
  have landed : (x.holding id).inFlight = [] := by
    simp [holding, (consistent.closed returned).1]
  obtain ⟨status, finished, fate⟩ := (consistent.standing id job submitted before).concluded landed
  refine ⟨status, finished, fate.imp_left ?_⟩
  rintro ⟨isCancelled, none, mode, flag⟩
  exact ⟨isCancelled, none, mode, consistent.control.raised flag⟩

/-- Outcomes are of jobs that were submitted. -/
theorem finished_unused (consistent : Consistent c timeout jobs x) {id : Nat}
    (free : jobs.length ≤ id) : x.finished.filter (·.id = id) = [] :=
  congrArg Holding.finished (consistent.unused id (Nat.le_trans consistent.nextId_le free))

/-- Once the join is over the outcomes are numbered like the jobs. -/
theorem finished_ids (consistent : Consistent c timeout jobs x) (returned : x.phase = .returned) :
    x.finished.map (·.id) = List.range jobs.length := by
  -- Every number of a job occurs once and no other occurs; both lists are in order, so they agree.
  have sameCount : (x.finished.map (·.id)).Perm (List.range jobs.length) := by
    rw [List.perm_iff_count]
    intro id
    have count : (x.finished.map (·.id)).count id = (x.finished.filter (·.id = id)).length := by
      rw [List.count_eq_countP, List.countP_map, List.countP_eq_length_filter]
      rfl
    rw [count, List.count_range]
    split
    case isTrue before =>
      obtain ⟨status, found, _⟩ :=
        consistent.concluded returned (List.getElem?_eq_getElem (by simpa using before))
      simp [found]
    case isFalse free => simp [consistent.finished_unused (Nat.le_of_not_lt free)]
  refine sameCount.eq_of_pairwise (fun a b _ _ => Nat.le_antisymm) ?_ List.pairwise_le_range
  exact List.pairwise_map.2 (consistent.closed returned).2

/-- Once the join is over the outcome of a job stands at its number. -/
theorem finished_getElem? (consistent : Consistent c timeout jobs x)
    (returned : x.phase = .returned) {id : Nat} {outcome : Outcome}
    (only : x.finished.filter (·.id = id) = [outcome]) : x.finished[id]? = some outcome := by
  have isOutcome : outcome ∈ x.finished.filter (·.id = id) := by simp [only]
  have number : outcome.id = id := by simpa using (List.mem_filter.1 isOutcome).2
  obtain ⟨place, found⟩ := List.getElem?_of_mem (List.mem_filter.1 isOutcome).1
  have ids := congrArg (·[place]?) (consistent.finished_ids returned)
  simp only [List.getElem?_map, found, Option.map_some] at ids
  have inRange := List.getElem?_eq_some_iff.1 ids.symm
  obtain ⟨_, same⟩ := inRange
  rw [List.getElem_range] at same
  rw [← number, ← same]
  exact found

/-- Once the join is over nobody is asked any more. -/
theorem calls_step (consistent : Consistent c timeout jobs x) (returned : x.phase = .returned)
    (turn : Turn) : (x.step turn).calls = x.calls ∧ (x.step turn).phase = .returned := by
  cases turn with
  | submitter => simp [Executor.step, Executor.stepSubmitter, returned]
  | deadline => simp [Executor.step, Executor.stepDeadline, returned]
  | task id =>
      simp only [Executor.step]
      split
      case h_2 => exact ⟨rfl, returned⟩
      case h_1 task found =>
        refine ⟨?_, (congrArg Control.phase (control_stepTask x task)).trans returned⟩
        rw [task?_eq] at found
        have isTask : task ∈ (x.holding id).tasks := List.mem_of_head? found
        have held : x.holding id ≠ {} := by
          intro empty
          rw [empty] at isTask
          cases isTask
        have landed : (x.holding id).inFlight = [] := by
          simp [holding, (consistent.closed returned).1]
        obtain ⟨job, _, stands⟩ := consistent.exists_job held
        -- No task is at work any more: it has ended, or gives up on a cancelled job.
        rcases stands.idle landed isTask with ended | ⟨claimed, early | early⟩
        · simp [Executor.stepTask, ended]
        · simp only [Executor.stepTask, early]
          split <;> rfl
        · simp [Executor.stepTask, early, claim, claimed, abandon, setTask, note]

theorem calls_run (consistent : Consistent c timeout jobs x) (returned : x.phase = .returned)
    (later : Schedule) : (x.run later).calls = x.calls ∧ (x.run later).phase = .returned := by
  induction later generalizing x with
  | nil => exact ⟨rfl, returned⟩
  | cons turn rest ih =>
      obtain ⟨calls, still⟩ := consistent.calls_step returned turn
      obtain ⟨callsLater, stillLater⟩ := ih (consistent.step turn) still
      exact ⟨callsLater.trans calls, stillLater⟩

end Consistent

/-- Whatever the order of moves, a join that is over reports one outcome for each job: the outcomes
are numbered in order of submission, and each carries the mode and the payload of its job. -/
theorem report_lists_every_job (c : Collaborators) (timeout : Bool) (jobs : List Job)
    (schedule : Schedule)
    (returned : ((start c timeout jobs).run schedule).isReturned = true) :
    let outcomes := ((start c timeout jobs).run schedule).report.outcomes
    outcomes.length = jobs.length ∧ outcomes.map (·.id) = List.range jobs.length ∧
      ∀ id (job : Job), jobs[id]? = some job →
        ∃ status, outcomes[id]? = some ((job.ticket id).outcome status) := by
  have consistent := consistent_run c timeout jobs schedule
  rw [isReturned_iff] at returned
  have ids := consistent.finished_ids returned
  refine ⟨?_, ids, ?_⟩
  · simpa [report] using congrArg List.length ids
  · intro id job submitted
    obtain ⟨status, only, _⟩ := consistent.concluded returned submitted
    exact ⟨status, consistent.finished_getElem? returned only⟩

/-- Three jobs of which the first fails at once, the second asks a node that crashes, and the third
has not been claimed when the deadline passes. -/
def lateJobs : List Job :=
  [⟨.sync, "deploy", .empty⟩, ⟨.distributed, "deploy", .empty⟩, ⟨.async, "deploy", .empty⟩]

/-- Nobody in charge of any domain, and two nodes. -/
def lateCollaborators : Collaborators := ⟨.echo, .echo, [.echo, .always (.crash none)], {}⟩

/-- The third task looks at the flag before it is raised, and comes too late to claim its job. -/
def lateSchedule : Schedule :=
  List.replicate 4 .submitter ++ [.task 1, .task 1, .task 2, .deadline, .submitter, .task 1]
    ++ List.replicate 3 .submitter

/-- The rest of that run, in which the second task ends before the third finds its job cancelled. -/
def lateEnd : Schedule := [.task 1, .task 1, .task 2, .task 1, .submitter, .submitter]

theorem report_lists_late_jobs :
    ((start lateCollaborators true lateJobs).run (lateSchedule ++ lateEnd)).isReturned = true ∧
      ((start lateCollaborators true lateJobs).run (lateSchedule ++ lateEnd)).report.outcomes.map
        (·.id) = [0, 1, 2] :=
  ⟨by decide, (report_lists_every_job lateCollaborators true lateJobs (lateSchedule ++ lateEnd)
    (by decide)).2.1⟩

/-- Whatever the order of moves, in the report of a join that is over each job is cancelled with
nobody asked for it at any time, or has the calls and the status that it would have alone; only jobs
of the pool are cancelled, and only under a timeout; nobody is asked after the join. So the status
of a job that is not cancelled is the same in every run, whatever becomes of the other jobs. -/
theorem report_isolates_jobs (c : Collaborators) (timeout : Bool) (jobs : List Job)
    (schedule : Schedule)
    (returned : ((start c timeout jobs).run schedule).isReturned = true) :
    let x := (start c timeout jobs).run schedule
    (∀ later, (x.run later).calls = x.calls) ∧
      ∀ id (job : Job), jobs[id]? = some job →
        ∃ outcome, x.report.find? id = some outcome ∧ outcome.toTicket = job.ticket id ∧
          (outcome.status = .cancelled ∧ (∀ later, (x.run later).callsFor id = []) ∨
            outcome.status = (job.perform c).2 ∧
              ∀ later, (x.run later).callsFor id = (job.perform c).1) ∧
          (outcome.status = .cancelled → job.mode ≠ .sync ∧ timeout = true) ∧
          ∀ c' timeout' jobs' schedule' id',
            let y := (start c' timeout' jobs').run schedule'
            y.isReturned = true → jobs'[id']? = some job → job.perform c' = job.perform c →
              ∀ outcome', y.report.find? id' = some outcome' →
                outcome.status ≠ .cancelled → outcome'.status ≠ .cancelled →
                  outcome'.status = outcome.status := by
  have consistent := consistent_run c timeout jobs schedule
  rw [isReturned_iff] at returned
  intro x
  have quiet : ∀ later, (x.run later).calls = x.calls :=
    fun later => (consistent.calls_run returned later).1
  have quietFor : ∀ id later, (x.run later).callsFor id = x.callsFor id := by
    intro id later
    rw [callsFor, callsFor, quiet later]
  refine ⟨quiet, fun id job submitted => ?_⟩
  obtain ⟨status, only, fate⟩ := consistent.concluded returned submitted
  refine ⟨(job.ticket id).outcome status, find?_of_filter only, rfl, ?_, ?_, ?_⟩
  · simp only [quietFor]
    rcases fate with ⟨rfl, none, _, _⟩ | ⟨same, calls⟩
    · exact .inl ⟨rfl, fun _ => none⟩
    · exact .inr ⟨same, fun _ => calls⟩
  · rintro (rfl : status = .cancelled)
    rcases fate with ⟨_, _, mode, timed⟩ | ⟨same, _⟩
    · exact ⟨mode, timed⟩
    · exact absurd same.symm (job.perform_ne_cancelled c)
  · intro c' timeout' jobs' schedule' id' y returned' submitted' alike outcome' found' kept kept'
    have consistent' := consistent_run c' timeout' jobs' schedule'
    rw [isReturned_iff] at returned'
    obtain ⟨status', only', fate'⟩ := consistent'.concluded returned' submitted'
    obtain rfl : (job.ticket id').outcome status' = outcome' :=
      Option.some.inj ((find?_of_filter only').symm.trans found')
    -- Neither is cancelled, so both ended as the job ends alone.
    have same := (fate.resolve_left fun cancelled => kept cancelled.1).1
    have same' := (fate'.resolve_left fun cancelled => kept' cancelled.1).1
    exact same'.trans ((congrArg Prod.snd alike).trans same.symm)

theorem report_isolates_late_jobs :
    let x := (start lateCollaborators true lateJobs).run (lateSchedule ++ lateEnd)
    let job : Job := ⟨.distributed, "deploy", .empty⟩
    x.isReturned = true ∧
      ∃ outcome, x.report.find? 1 = some outcome ∧
        (outcome.status = .cancelled ∧ (∀ later, (x.run later).callsFor 1 = []) ∨
          outcome.status = (job.perform lateCollaborators).2 ∧
            ∀ later, (x.run later).callsFor 1 = (job.perform lateCollaborators).1) := by
  refine ⟨by decide, ?_⟩
  obtain ⟨_, isolated⟩ := report_isolates_jobs lateCollaborators true lateJobs
    (lateSchedule ++ lateEnd) (by decide)
  obtain ⟨outcome, found, _, fate, _, _⟩ := isolated 1 ⟨.distributed, "deploy", .empty⟩ rfl
  exact ⟨outcome, found, fate⟩

end Executor

end TaskScript
