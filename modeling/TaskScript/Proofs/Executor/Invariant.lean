import TaskScript.Proofs.Executor.Standing

/-!
# The invariant of a run

Whatever the order of moves, every job that has been submitted stands as `Standing` says, nothing is
held under a number that has not been given out, and the phase of the submitter agrees with the
count of jobs and with the flag (`Executor.Consistent`). One move keeps this
(`Executor.Consistent.step`), so every run has it (`Executor.consistent_run`).
-/

namespace TaskScript

/-- What only the submitter and the deadline change. -/
structure Control where
  collaborators : Collaborators
  hasTimeout : Bool
  phase : Phase
  nextId : Nat
  cancelRaised : Bool

namespace Control

/-- The jobs that the join will look at before it waits again. -/
def due (k : Control) : List Ticket :=
  match k.phase with
  | .cancelling tickets => tickets
  | _ => []

/-- The phase agrees with the count of the jobs submitted and with the flag. -/
def PhaseFits (jobs : List Job) (k : Control) : Prop :=
  match k.phase with
  | .submitting later =>
    (∃ earlier, earlier.length = k.nextId ∧ earlier ++ later = jobs) ∧ k.cancelRaised = false
  | .waiting deadline =>
    k.nextId = jobs.length ∧ (deadline = true → k.hasTimeout = true ∧ k.cancelRaised = false)
  | .expired => k.nextId = jobs.length ∧ k.hasTimeout = true ∧ k.cancelRaised = false
  | .cancelling tickets =>
    k.nextId = jobs.length ∧ k.cancelRaised = true ∧
      ∀ ticket ∈ tickets, ∃ job, jobs[ticket.id]? = some job ∧ ticket = job.ticket ticket.id
  | .returned => k.nextId = jobs.length

/-- A run of these jobs may have come here. -/
structure Fits (c : Collaborators) (timeout : Bool) (jobs : List Job) (k : Control) : Prop where
  collaborators : k.collaborators = c
  hasTimeout : k.hasTimeout = timeout
  raised : k.cancelRaised = true → timeout = true
  phase : k.PhaseFits jobs

/-- Moving on to another phase is all that most moves of the submitter do. -/
theorem Fits.withPhase {c : Collaborators} {timeout : Bool} {jobs : List Job} {k : Control}
    (fits : k.Fits c timeout jobs) {phase : Phase} (there : PhaseFits jobs { k with phase }) :
    Fits c timeout jobs { k with phase } :=
  ⟨fits.collaborators, fits.hasTimeout, fits.raised, there⟩

end Control

namespace Executor

/-- Where the submitter has come to. -/
def control (x : Executor) : Control :=
  ⟨x.collaborators, x.hasTimeout, x.phase, x.nextId, x.cancelRaised⟩

/-- The invariant of a run of some jobs. -/
structure Consistent (c : Collaborators) (timeout : Bool) (jobs : List Job) (x : Executor) :
    Prop where
  control : x.control.Fits c timeout jobs
  standing : ∀ id job, jobs[id]? = some job → id < x.nextId →
    Standing c job id x.cancelRaised (job.ticket id ∈ x.control.due) (x.holding id)
  unused : ∀ id, x.nextId ≤ id → x.holding id = {}
  closed : x.phase = .returned → x.inFlight = [] ∧ x.finished.Pairwise (·.id ≤ ·.id)

/-! ## What moves leave as it was -/

theorem control_stepTask (x : Executor) (task : PoolTask) :
    (x.stepTask task).control = x.control := by
  obtain ⟨_, _, _, _, same⟩ := x.stepTask_eq task
  rw [same]
  rfl

theorem control_cancel (x : Executor) (ticket : Ticket) :
    (x.cancel ticket).control = x.control := by
  unfold cancel
  split <;> rfl

theorem control_resume (x : Executor) :
    x.resume.control = { x.control with phase := .waiting false } := by
  simp only [resume]
  split <;> rfl

theorem holding_resume (x : Executor) (id : Nat) : x.resume.holding id = x.holding id := by
  simp only [resume]
  split <;> rfl

theorem holding_cancel_of_ne (x : Executor) (ticket : Ticket) {id : Nat} (other : id ≠ ticket.id) :
    (x.cancel ticket).holding id = x.holding id := by
  by_cases pending : x.isPending ticket = true
  · rw [holding_cancel x ticket id pending, if_neg other]
  · rw [cancel, if_neg pending]

theorem control_submit (x : Executor) (job : Job) :
    (x.submit job).control = { x.control with nextId := x.nextId + 1 } := by
  unfold submit
  cases job.mode <;> rfl

theorem holding_submit_of_ne (x : Executor) (job : Job) {id : Nat} (other : id ≠ x.nextId) :
    (x.submit job).holding id = x.holding id := by
  unfold submit
  cases job.mode with
  | sync => exact (holding_runInline _ _ _ _).trans (if_neg other)
  | async | distributed => exact (holding_spawn _ _ _ _).trans (if_neg other)

end Executor

namespace Standing

variable {x : Executor} {c : Collaborators} {job : Job} {id : Nat} {raised : Bool} {due : Prop}
  {held : Holding}

/-- A job stands as soon as it is submitted. -/
theorem submit (unused : x.holding x.nextId = {}) (lowered : raised = false) :
    Standing x.collaborators job x.nextId raised due ((x.submit job).holding x.nextId) := by
  have free (message : String) :
      ({ x with nextId := x.nextId + 1 }.note .debug message).holding x.nextId = {} := unused
  simp only [Executor.submit]
  cases mode : job.mode with
  | sync =>
      simpa [Executor.holding_runInline, free] using inline mode
  | async | distributed =>
      simpa [Executor.holding_spawn, free] using
        unclaimed (by simp [mode]) (by simp [lowered]) (.inl (.inl rfl))

/-- A job stands on when the flag or the list of jobs to look at changes, so long as the join will
look at it in case nobody has claimed it. -/
theorem mono {raised' : Bool} {due' : Prop} (stands : Standing c job id raised due held)
    (rises : raised = true → raised' = true)
    (seen' : job.ticket id ∈ held.inFlight → held.tasks.any (·.claim = .pending) = true →
      (raised = true → due) → raised' = true → due') :
    Standing c job id raised' due' held := by
  cases stands with
  | inline mode => exact inline mode
  | unclaimed mode seen early =>
      refine unclaimed mode (seen' List.mem_cons_self ?_ seen) ?_
      · simp
      · exact early.imp_right (And.imp_left rises)
  | working mode leads timely => exact working mode leads timely
  | sent mode => exact sent mode
  | received mode => exact received mode
  | cancelled mode flag early => exact cancelled mode (rises flag) early

theorem finished_length_le (stands : Standing c job id raised due held) :
    held.finished.length ≤ 1 := by
  cases stands <;> simp

theorem inFlight_subset (stands : Standing c job id raised due held) :
    ∀ ticket ∈ held.inFlight, ticket = job.ticket id := by
  cases stands <;> simp

end Standing

namespace Executor

variable {c : Collaborators} {timeout : Bool} {jobs : List Job} {x y : Executor}

theorem consistent_start (c : Collaborators) (timeout : Bool) (jobs : List Job) :
    Consistent c timeout jobs (start c timeout jobs) where
  control := ⟨rfl, rfl, (fun raised => by cases raised), by exact ⟨⟨[], rfl, rfl⟩, rfl⟩⟩
  standing _ _ _ given := absurd given (Nat.not_lt_zero _)
  unused _ _ := rfl
  closed returned := by cases returned

namespace Consistent

/-- A move that acts under no number keeps the invariant, if the join will still look at every job
that nobody has claimed. -/
theorem of_control (consistent : Consistent c timeout jobs x)
    (fits : y.control.Fits c timeout jobs) (given : y.nextId = x.nextId)
    (same : ∀ id, y.holding id = x.holding id)
    (rises : x.cancelRaised = true → y.cancelRaised = true)
    (seen : ∀ ticket ∈ x.inFlight, (x.cancelRaised = true → ticket ∈ x.control.due) →
      y.cancelRaised = true → ticket ∈ y.control.due)
    (closed : y.phase = .returned → y.inFlight = [] ∧ y.finished.Pairwise (·.id ≤ ·.id)) :
    Consistent c timeout jobs y where
  control := fits
  standing id job submitted before := by
    rw [same]
    rw [given] at before
    refine (consistent.standing id job submitted before).mono rises fun member _ => seen _ ?_
    exact (List.mem_filter.1 member).1
  unused id free := by
    rw [same]
    exact consistent.unused id (given ▸ free)
  closed := closed

/-- A move that acts under one number keeps the invariant, if the job of that number still stands. -/
theorem of_holding (consistent : Consistent c timeout jobs x)
    (fits : y.control.Fits c timeout jobs) (given : y.nextId = x.nextId)
    (raised : y.cancelRaised = x.cancelRaised) (number : Nat) (before : number < x.nextId)
    (other : ∀ id, id ≠ number → y.holding id = x.holding id)
    (stands : ∀ job, jobs[number]? = some job →
      Standing c job number x.cancelRaised (job.ticket number ∈ y.control.due) (y.holding number))
    (due : ∀ ticket ∈ x.control.due, ticket.id ≠ number → ticket ∈ y.control.due)
    (closed : y.phase = .returned → y.inFlight = [] ∧ y.finished.Pairwise (·.id ≤ ·.id)) :
    Consistent c timeout jobs y where
  control := fits
  standing id job submitted inRange := by
    rw [raised]
    rw [given] at inRange
    by_cases acted : id = number
    · subst acted
      exact stands job submitted
    · rw [other id acted]
      refine (consistent.standing id job submitted inRange).mono (fun flag => flag) ?_
      exact fun _ _ seen flag => due _ (seen flag) acted
  unused id free := by
    rw [given] at free
    rw [other id (by omega)]
    exact consistent.unused id free
  closed := closed

/-! ### What is held -/

theorem nextId_le (consistent : Consistent c timeout jobs x) : x.nextId ≤ jobs.length := by
  have fits := consistent.control.phase
  unfold Control.PhaseFits at fits
  split at fits
  case h_1 later _ =>
    obtain ⟨⟨earlier, count, rfl⟩, _⟩ := fits
    rw [List.length_append]
    exact Nat.le_trans (Nat.le_of_eq count.symm) (Nat.le_add_right _ _)
  case h_5 => exact Nat.le_of_eq fits
  all_goals exact Nat.le_of_eq fits.1

/-- Nothing is held under a number that is not given out. -/
theorem lt_nextId (consistent : Consistent c timeout jobs x) {id : Nat}
    (held : x.holding id ≠ {}) : id < x.nextId := by
  by_contra free
  exact held (consistent.unused id (Nat.le_of_not_lt free))

/-- Something is held under a number only if a job was submitted under it. -/
theorem exists_job (consistent : Consistent c timeout jobs x) {id : Nat}
    (held : x.holding id ≠ {}) :
    ∃ job, jobs[id]? = some job ∧
      Standing c job id x.cancelRaised (job.ticket id ∈ x.control.due) (x.holding id) := by
  have given := consistent.lt_nextId held
  have bound := consistent.nextId_le
  have submitted : jobs[id]? = some jobs[id] := List.getElem?_eq_getElem (by omega)
  exact ⟨jobs[id], submitted, consistent.standing id _ submitted given⟩

theorem holding_ne_of_inFlight {ticket : Ticket} (inFlight : ticket ∈ x.inFlight) :
    x.holding ticket.id ≠ {} := by
  intro empty
  have member := mem_holding_inFlight inFlight
  rw [empty] at member
  cases member

theorem holding_ne_of_channel {outcome : Outcome} {later : List Outcome}
    (channel : x.channel = outcome :: later) : x.holding outcome.id ≠ {} := by
  intro empty
  have member := mem_holding_channel channel
  rw [empty] at member
  cases member

/-- Tickets in flight are those of submitted jobs. -/
theorem ticket_of_inFlight (consistent : Consistent c timeout jobs x) {ticket : Ticket}
    (inFlight : ticket ∈ x.inFlight) :
    ∃ job, jobs[ticket.id]? = some job ∧ ticket = job.ticket ticket.id := by
  obtain ⟨job, submitted, stands⟩ := consistent.exists_job (holding_ne_of_inFlight inFlight)
  exact ⟨job, submitted, stands.inFlight_subset ticket (mem_holding_inFlight inFlight)⟩

/-- While the join waits, the outcome of every job in flight has been sent, or its task is still
going to send it. -/
theorem awaited (consistent : Consistent c timeout jobs x) {deadline : Bool}
    (phase : x.phase = .waiting deadline) {ticket : Ticket} (inFlight : ticket ∈ x.inFlight) :
    (∃ status, ticket.outcome status ∈ x.channel) ∨
      ∃ task, x.task? ticket.id = some task ∧ task.ticket = ticket ∧ task.stage ≠ .ended := by
  obtain ⟨job, submitted, stands⟩ := consistent.exists_job (holding_ne_of_inFlight inFlight)
  have member := mem_holding_inFlight inFlight
  have known : ticket = job.ticket ticket.id := stands.inFlight_subset ticket member
  have isSent {outcome : Outcome} (held : outcome ∈ (x.holding ticket.id).channel) :
      outcome ∈ x.channel := (List.mem_filter.1 held).1
  have due : x.control.due = [] := by simp [Control.due, Executor.control, phase]
  rw [task?_eq]
  generalize x.holding ticket.id = held at stands member isSent
  cases stands with
  | inline | received | cancelled => cases member
  | @unclaimed stage mode seen early =>
      refine .inr ⟨_, rfl, known.symm, ?_⟩
      rcases early with (rfl | rfl) | ⟨flag, _⟩
      · simp
      · simp
      -- A task that has given up is due to be cancelled, and nothing is due while the join waits.
      · have listed := seen flag
        rw [due] at listed
        cases listed
  | @working stage made mode leads timely =>
      refine .inr ⟨_, rfl, known.symm, ?_⟩
      rintro rfl
      simp [Stage.outlook] at leads
  | sent mode =>
      have onWay := isSent List.mem_cons_self
      rw [← known] at onWay
      exact .inl ⟨_, onWay⟩

/-- While the join waits for a job, somebody can still send or has sent. -/
theorem not_disconnected (consistent : Consistent c timeout jobs x) {deadline : Bool}
    (phase : x.phase = .waiting deadline) (inFlight : x.inFlight ≠ []) (channel : x.channel = []) :
    x.isDisconnected = false := by
  obtain ⟨ticket, member⟩ := List.exists_mem_of_ne_nil _ inFlight
  rcases consistent.awaited phase member with ⟨status, sent⟩ | ⟨task, found, _, live⟩
  · rw [channel] at sent
    cases sent
  · rw [Executor.isDisconnected, List.all_eq_false]
    refine ⟨task, List.mem_of_find?_eq_some found, ?_⟩
    cases stage : task.stage <;> simp_all

/-! ### Moves -/

/-- Submitting the next job keeps the invariant. -/
theorem submit (consistent : Consistent c timeout jobs x) {job : Job} {later : List Job}
    (phase : x.phase = .submitting (job :: later)) :
    Consistent c timeout jobs ({ x with phase := .submitting later }.submit job) := by
  have fits := consistent.control.phase
  simp only [Control.PhaseFits, Executor.control, phase] at fits
  obtain ⟨⟨earlier, count, rfl⟩, lowered⟩ := fits
  set y : Executor := { x with phase := .submitting later }
  have control := control_submit y job
  have given : (y.submit job).nextId = x.nextId + 1 := congrArg Control.nextId control
  have raised : (y.submit job).cancelRaised = false :=
    (congrArg Control.cancelRaised control).trans lowered
  have due : (y.submit job).control.due = [] := by rw [control]; rfl
  have thisJob : (earlier ++ job :: later)[x.nextId]? = some job := by simp [← count]
  refine ⟨?_, ?_, ?_, ?_⟩
  · rw [control]
    refine ⟨consistent.control.collaborators, consistent.control.hasTimeout,
      consistent.control.raised, ?_⟩
    exact ⟨⟨earlier ++ [job], by simpa using count, by simp⟩, lowered⟩
  · intro id known submitted before
    rw [raised, due]
    -- The number given out is one that nothing was held under.
    by_cases new : id = x.nextId
    · subst new
      obtain rfl : job = known := Option.some.inj (thisJob.symm.trans submitted)
      rw [← show x.collaborators = c from consistent.control.collaborators]
      exact Standing.submit (x := y) (consistent.unused x.nextId (Nat.le_refl _)) rfl
    · rw [holding_submit_of_ne y job new]
      have stands := consistent.standing id known submitted (by omega)
      rw [lowered] at stands
      exact stands.mono (fun flag => flag) fun _ _ _ flag => by cases flag
  · intro id free
    rw [holding_submit_of_ne y job (by omega : id ≠ x.nextId)]
    exact consistent.unused id (by omega)
  · intro returned
    have submitting : (y.submit job).phase = .submitting later := congrArg Control.phase control
    cases submitting.symm.trans returned

/-- The join begins once every job is submitted. -/
theorem wait (consistent : Consistent c timeout jobs x) (phase : x.phase = .submitting []) :
    Consistent c timeout jobs { x with phase := .waiting x.hasTimeout } := by
  have fits := consistent.control.phase
  simp only [Control.PhaseFits, Executor.control, phase] at fits
  obtain ⟨⟨earlier, count, rfl⟩, lowered⟩ := fits
  refine consistent.of_control ?_ rfl (fun _ => rfl) (fun flag => flag) ?_
    (fun returned => by cases returned)
  · have all : x.nextId = (earlier ++ []).length := by simpa using count.symm
    exact consistent.control.withPhase ⟨all, fun hasTimeout => ⟨hasTimeout, lowered⟩⟩
  · intro ticket _ _ flag
    exact absurd flag (by simp [lowered])

/-- Receiving an outcome keeps the invariant. -/
theorem receive (consistent : Consistent c timeout jobs x) {deadline : Bool} {outcome : Outcome}
    {later : List Outcome} (phase : x.phase = .waiting deadline)
    (channel : x.channel = outcome :: later) :
    Consistent c timeout jobs (x.receive outcome later) := by
  have held := holding_ne_of_channel channel
  refine consistent.of_holding consistent.control rfl rfl outcome.id (consistent.lt_nextId held)
    ?_ ?_ (fun _ listed _ => listed) ?_
  · intro id other
    rw [holding_receive x outcome later channel, if_neg other]
  · intro job submitted
    exact (consistent.standing _ job submitted (consistent.lt_nextId held)).receive channel
  · intro returned
    cases phase.symm.trans returned

/-- The join ends with nothing in flight, and this keeps the invariant. -/
theorem close (consistent : Consistent c timeout jobs x) {deadline : Bool}
    (phase : x.phase = .waiting deadline) (inFlight : x.inFlight = []) :
    Consistent c timeout jobs x.close := by
  have fits := consistent.control.phase
  simp only [Control.PhaseFits, Executor.control, phase] at fits
  -- With one outcome under each number at most, sorting by number is not seen under any of them.
  have same : ∀ id, x.close.holding id = x.holding id := by
    intro id
    refine holding_close x id inFlight ?_
    by_cases empty : x.holding id = {}
    · simp [empty]
    · obtain ⟨job, _, stands⟩ := consistent.exists_job empty
      exact stands.finished_length_le
  refine consistent.of_control ?_ rfl same (fun flag => flag) ?_ ?_
  · exact consistent.control.withPhase fits.1
  · intro ticket member
    rw [inFlight] at member
    cases member
  · intro _
    refine ⟨rfl, ?_⟩
    have sorted : ((x.finished ++ x.inFlight.map (·.outcome .cancelled)).mergeSort
        (·.id ≤ ·.id)).Pairwise (fun a b => decide (a.id ≤ b.id) = true) := by
      apply List.pairwise_mergeSort
      · intro a b c first second
        simp only [decide_eq_true_eq] at first second ⊢
        omega
      · intro a b
        simp only [Bool.or_eq_true, decide_eq_true_eq]
        omega
    exact sorted.imp of_decide_eq_true

/-- One round of the join keeps the invariant. -/
theorem join (consistent : Consistent c timeout jobs x) {deadline : Bool}
    (phase : x.phase = .waiting deadline) : Consistent c timeout jobs x.join := by
  unfold Executor.join
  split
  case isTrue empty => exact consistent.close phase (List.isEmpty_iff.1 empty)
  case isFalse inFlight =>
    split
    case h_1 outcome later channel => exact consistent.receive phase channel
    case h_2 channel =>
      have connected := consistent.not_disconnected phase (by simpa using inFlight) channel
      rw [connected]
      exact consistent

/-- Raising the flag keeps the invariant: the join will look at every job in flight. -/
theorem raiseFlag (consistent : Consistent c timeout jobs x) (phase : x.phase = .expired) :
    Consistent c timeout jobs x.raiseFlag := by
  have fits := consistent.control.phase
  simp only [Control.PhaseFits, Executor.control, phase] at fits
  obtain ⟨count, hasTimeout, _⟩ := fits
  refine consistent.of_control ?_ rfl (fun _ => rfl) (fun _ => rfl) ?_
    (fun returned => by cases returned)
  · refine ⟨consistent.control.collaborators, consistent.control.hasTimeout,
      fun _ => consistent.control.hasTimeout.symm.trans hasTimeout, ?_⟩
    exact ⟨count, rfl, fun ticket member => consistent.ticket_of_inFlight member⟩
  · intro ticket member _ _
    exact member

/-- Looking at the next job keeps the invariant, whether or not the job is cancelled. -/
theorem cancel (consistent : Consistent c timeout jobs x) {ticket : Ticket} {later : List Ticket}
    (phase : x.phase = .cancelling (ticket :: later)) :
    Consistent c timeout jobs ({ x with phase := .cancelling later }.cancel ticket) := by
  have fits := consistent.control.phase
  simp only [Control.PhaseFits, Executor.control, phase] at fits
  obtain ⟨count, flag, known⟩ := fits
  obtain ⟨job, submitted, isTicket⟩ := known ticket List.mem_cons_self
  have due : x.control.due = ticket :: later := by simp [Control.due, Executor.control, phase]
  generalize ticket.id = id at submitted isTicket
  subst isTicket
  have before : id < x.nextId := count ▸ (List.getElem?_eq_some_iff.1 submitted).1
  have stands := consistent.standing id job submitted before
  set y : Executor := { x with phase := .cancelling later }
  have control := control_cancel y (job.ticket id)
  have fitsLater : y.control.Fits c timeout jobs := consistent.control.withPhase
    ⟨count, flag, fun ticket member => known ticket (List.mem_cons_of_mem _ member)⟩
  refine consistent.of_holding (control ▸ fitsLater) (congrArg Control.nextId control)
    (congrArg Control.cancelRaised control) id before ?_ ?_ ?_ ?_
  · intro other different
    exact holding_cancel_of_ne y (job.ticket id) different
  · intro same again
    obtain rfl : job = same := Option.some.inj (submitted.symm.trans again)
    -- Once the join has looked at a job it is not due again, so it must have been claimed by someone.
    by_cases pending : y.isPending (job.ticket id) = true
    · exact Standing.cancel (x := y) pending flag stands
    · rw [Executor.cancel, if_neg pending]
      rw [isPending_eq] at pending
      exact stands.mono (fun flag => flag) fun _ unclaimed => absurd unclaimed pending
  · intro other member different
    rw [due] at member
    rw [control]
    exact (List.mem_cons.1 member).resolve_left fun same => different (congrArg Ticket.id same)
  · intro returned
    have cancelling : (y.cancel (job.ticket id)).phase = .cancelling later :=
      congrArg Control.phase control
    cases cancelling.symm.trans returned

/-- Waiting again keeps the invariant: every job in flight has been claimed. -/
theorem resume (consistent : Consistent c timeout jobs x) (phase : x.phase = .cancelling []) :
    Consistent c timeout jobs x.resume := by
  have fits := consistent.control.phase
  simp only [Control.PhaseFits, Executor.control, phase] at fits
  have control := control_resume x
  have due : x.control.due = [] := by simp [Control.due, Executor.control, phase]
  refine consistent.of_control ?_ (congrArg Control.nextId control) (holding_resume x) ?_ ?_ ?_
  · rw [control]
    exact consistent.control.withPhase ⟨fits.1, fun deadline => by cases deadline⟩
  · exact fun flag => (congrArg Control.cancelRaised control).trans flag
  -- The flag is raised and nothing is due, so no job in flight is without a claim.
  · intro ticket _ seen _
    have listed := seen fits.2.1
    rw [due] at listed
    cases listed
  · intro returned
    have waiting : x.resume.phase = .waiting false := congrArg Control.phase control
    cases waiting.symm.trans returned

/-- The passing of the deadline keeps the invariant. -/
theorem stepDeadline (consistent : Consistent c timeout jobs x) :
    Consistent c timeout jobs x.stepDeadline := by
  unfold Executor.stepDeadline
  split
  case h_1 phase _ _ =>
    have fits := consistent.control.phase
    simp only [Control.PhaseFits, Executor.control, phase] at fits
    obtain ⟨count, known⟩ := fits
    refine consistent.of_control ?_ rfl (fun _ => rfl) (fun flag => flag) ?_
      (fun returned => by cases returned)
    · exact consistent.control.withPhase ⟨count, known trivial⟩
    · intro ticket _ _ flag
      cases (known trivial).2.symm.trans flag
  case h_2 => exact consistent

/-- A move of the submitter keeps the invariant. -/
theorem stepSubmitter (consistent : Consistent c timeout jobs x) :
    Consistent c timeout jobs x.stepSubmitter := by
  unfold Executor.stepSubmitter
  split
  case h_1 phase => exact consistent.wait phase
  case h_2 job later phase => exact consistent.submit phase
  case h_3 deadline phase => exact consistent.join phase
  case h_4 phase => exact consistent.raiseFlag phase
  case h_5 phase => exact consistent.resume phase
  case h_6 ticket later phase => exact consistent.cancel phase
  case h_7 => exact consistent

/-- A move of a task keeps the invariant. -/
theorem stepTask (consistent : Consistent c timeout jobs x) {id : Nat} {task : PoolTask}
    (found : x.task? id = some task) : Consistent c timeout jobs (x.stepTask task) := by
  have control := control_stepTask x task
  have number := ticket_id_of_task? found
  have held : x.holding id ≠ {} := by
    intro empty
    rw [task?_eq, empty] at found
    cases found
  refine consistent.of_holding (control ▸ consistent.control) (congrArg Control.nextId control)
    (congrArg Control.cancelRaised control) id (consistent.lt_nextId held) ?_ ?_ ?_ ?_
  · intro other different
    exact holding_stepTask_of_ne x task other (number ▸ different)
  · intro job submitted
    have stands := consistent.standing id job submitted (consistent.lt_nextId held)
    rw [control]
    rw [← show x.collaborators = c from consistent.control.collaborators] at stands ⊢
    exact stands.stepTask found
  · intro ticket member _
    rw [control]
    exact member
  · intro returned
    obtain ⟨tasks, channel, calls, log, moved⟩ := x.stepTask_eq task
    rw [moved] at returned ⊢
    exact consistent.closed returned

/-- Every move keeps the invariant. -/
theorem step (consistent : Consistent c timeout jobs x) (turn : Turn) :
    Consistent c timeout jobs (x.step turn) := by
  cases turn with
  | submitter => exact consistent.stepSubmitter
  | deadline => exact consistent.stepDeadline
  | task id =>
      simp only [Executor.step]
      split
      case h_1 task found => exact consistent.stepTask found
      case h_2 => exact consistent

/-- Every order of moves keeps the invariant. -/
theorem run (consistent : Consistent c timeout jobs x) (schedule : Schedule) :
    Consistent c timeout jobs (x.run schedule) := by
  induction schedule generalizing x with
  | nil => exact consistent
  | cons turn later ih => exact ih (consistent.step turn)

end Consistent

/-- Every run has the invariant. -/
theorem consistent_run (c : Collaborators) (timeout : Bool) (jobs : List Job)
    (schedule : Schedule) : Consistent c timeout jobs ((start c timeout jobs).run schedule) :=
  (consistent_start c timeout jobs).run schedule

end Executor

end TaskScript
