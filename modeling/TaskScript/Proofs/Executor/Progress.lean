import TaskScript.Proofs.Executor.Joined

/-!
# The join comes to its end

A job in flight is never left to itself: while the join waits, its outcome has been sent or its task
is still going to send it (`Executor.Consistent.awaited`). So the join never ends for want of
somebody to send, and from wherever a run has come to, `Executor.complete` ends it:

* `Executor.ownTurns_waiting`: the submitter comes to wait by its own turns;
* `Executor.turnsLeft_run_flatMap`: the turns given to the tasks bring them to their end;
* `Executor.Consistent.receive_all`: the outcomes then on their way are received one by one.
-/

namespace TaskScript

theorem Stage.turnsLeft_pos {stage : Stage} {total : Nat} (whole : 4 ≤ total)
    (live : stage ≠ .ended) : 0 < stage.turnsLeft total := by
  cases stage with
  | ended => exact absurd rfl live
  | pausing | ready | asking | settled => simp only [turnsLeft]; omega

namespace Executor

variable {c : Collaborators} {timeout : Bool} {jobs : List Job} {x : Executor}

theorem run_append (x : Executor) (first second : Schedule) :
    x.run (first ++ second) = (x.run first).run second := List.foldl_append

theorem run_cons (x : Executor) (turn : Turn) (later : Schedule) :
    x.run (turn :: later) = (x.step turn).run later := rfl

/-! ## The submitter on its own -/

theorem phase_submit (x : Executor) (job : Job) : (x.submit job).phase = x.phase :=
  congrArg Control.phase (control_submit x job)

theorem phase_cancel (x : Executor) (ticket : Ticket) : (x.cancel ticket).phase = x.phase :=
  congrArg Control.phase (control_cancel x ticket)

theorem run_submitting (later : List Job) (phase : x.phase = .submitting later) :
    ∃ deadline, (x.run (List.replicate (later.length + 1) .submitter)).phase = .waiting deadline := by
  induction later generalizing x with
  | nil => exact ⟨x.hasTimeout, by simp [run, step, stepSubmitter, phase]⟩
  | cons job later ih =>
      rw [List.length_cons, List.replicate_succ, run_cons]
      apply ih
      simp [step, stepSubmitter, phase, phase_submit]

theorem run_cancelling (tickets : List Ticket) (phase : x.phase = .cancelling tickets) :
    (x.run (List.replicate (tickets.length + 1) .submitter)).phase = .waiting false := by
  induction tickets generalizing x with
  | nil =>
      have resumed : x.resume.phase = .waiting false :=
        congrArg Control.phase (control_resume x)
      simp [run, step, stepSubmitter, phase, resumed]
  | cons ticket later ih =>
      rw [List.length_cons, List.replicate_succ, run_cons]
      apply ih
      simp [step, stepSubmitter, phase, phase_cancel]

/-- By its own turns the submitter comes to wait, unless the join is over. -/
theorem ownTurns_waiting (open_ : x.isReturned = false) :
    ∃ deadline, (x.run (List.replicate x.ownTurns .submitter)).phase = .waiting deadline := by
  unfold ownTurns
  split
  case h_1 later phase => exact run_submitting later phase
  case h_2 phase =>
    refine ⟨false, ?_⟩
    rw [List.replicate_succ, run_cons]
    have raised : (x.step .submitter).phase = .cancelling x.inFlight := by
      simp [step, stepSubmitter, phase, raiseFlag]
    exact run_cancelling x.inFlight raised
  case h_3 tickets phase => exact ⟨false, run_cancelling tickets phase⟩
  case h_4 deadline phase => exact ⟨deadline, phase⟩
  case h_5 phase => simp [isReturned, phase] at open_

/-! ## Tasks on their own -/

/-- How many turns the task of a number needs to come to its end. -/
def turnsLeft (x : Executor) (id : Nat) : Nat :=
  match x.task? id with
  | none => 0
  | some task => task.stage.turnsLeft (task.job.turns x.collaborators)

theorem task?_setTask (x : Executor) (task : PoolTask) :
    (x.setTask task).task? task.ticket.id = (x.task? task.ticket.id).map fun _ => task := by
  rw [task?_eq, task?_eq, holding_setTask, if_pos rfl, List.head?_map]

theorem turnsLeft_setTask {old task : PoolTask} (found : x.task? task.ticket.id = some old) :
    (x.setTask task).turnsLeft task.ticket.id =
      task.stage.turnsLeft (task.job.turns x.collaborators) := by
  simp only [turnsLeft, task?_setTask, found, Option.map_some]
  rfl

theorem four_le_turns (c : Collaborators) (job : Job) : 4 ≤ job.turns c := by
  unfold Job.turns
  split <;> simp

/-- A turn brings a task nearer to its end. -/
theorem turnsLeft_stepTask {id : Nat} {task : PoolTask} (found : x.task? id = some task) :
    (x.stepTask task).turnsLeft id ≤ x.turnsLeft id - 1 := by
  obtain rfl := ticket_id_of_task? found
  have before : x.turnsLeft task.ticket.id =
      task.stage.turnsLeft (task.job.turns x.collaborators) := by
    simp only [turnsLeft, found]
  -- A move replaces the task by one at a later stage.
  have after (claim : Claim) (stage : Stage)
      (nearer : stage.turnsLeft (task.job.turns x.collaborators) ≤ x.turnsLeft task.ticket.id - 1) :
      (x.setTask ⟨task.ticket, task.job, claim, stage⟩).turnsLeft task.ticket.id ≤
        x.turnsLeft task.ticket.id - 1 :=
    Nat.le_trans (Nat.le_of_eq (turnsLeft_setTask found)) nearer
  have total := four_le_turns x.collaborators task.job
  cases stage : task.stage with
  | pausing =>
      simp only [stage, Stage.turnsLeft] at before
      simp only [stepTask, stage]
      split
      · exact after task.claim .ended (Nat.zero_le _)
      · exact after task.claim .ready (by simp only [Stage.turnsLeft]; omega)
  | ready =>
      simp only [stage, Stage.turnsLeft] at before
      simp only [stepTask, stage, claim]
      split
      case isFalse => exact after task.claim .ended (Nat.zero_le _)
      case isTrue =>
        split
        case h_1 error known =>
          exact after .running (.settled (.failed error)) (by simp only [Stage.turnsLeft]; omega)
        case h_2 requests known =>
          simp only [Job.turns, known] at before
          exact after .running (.asking requests []) (by simp only [Stage.turnsLeft]; omega)
  | asking requests lines =>
      cases requests with
      | nil =>
          simp only [stage, Stage.turnsLeft, List.length_nil] at before
          simp only [stepTask, stage]
          exact after task.claim (.settled (.completed lines))
            (by simp only [Stage.turnsLeft]; omega)
      | cons request later =>
          simp only [stage, Stage.turnsLeft, List.length_cons] at before
          simp only [stepTask, stage, ask]
          split
          case h_1 text _ =>
            exact after task.claim (.asking later (lines ++ [text]))
              (by simp only [Stage.turnsLeft]; omega)
          case h_2 error _ =>
            exact after task.claim (.settled (.failed (request.blame error)))
              (by simp only [Stage.turnsLeft]; omega)
          case h_3 text? _ =>
            exact after task.claim (.settled (.failed (.crashed text?)))
              (by simp only [Stage.turnsLeft]; omega)
  | settled status =>
      simp only [stepTask, stage]
      exact after task.claim .ended (Nat.zero_le _)
  | ended =>
      simp only [stage, Stage.turnsLeft] at before
      simp only [stepTask, stage]
      omega

theorem turnsLeft_step_of_ne (x : Executor) {id other : Nat} (different : id ≠ other) :
    (x.step (.task other)).turnsLeft id = x.turnsLeft id := by
  simp only [step]
  split
  case h_2 => rfl
  case h_1 task found =>
    have number := ticket_id_of_task? found
    have settings : (x.stepTask task).collaborators = x.collaborators :=
      congrArg Control.collaborators (control_stepTask x task)
    simp only [turnsLeft, task?_eq, settings,
      holding_stepTask_of_ne x task id (number ▸ different)]

theorem turnsLeft_step (x : Executor) (id : Nat) :
    (x.step (.task id)).turnsLeft id ≤ x.turnsLeft id - 1 := by
  simp only [step]
  split
  case h_1 task found => exact turnsLeft_stepTask found
  case h_2 none => simp [turnsLeft, none]

/-- Turns given to a task count down what it has left, and leave every other task where it is. -/
theorem turnsLeft_run_replicate (x : Executor) (id number count : Nat) :
    (x.run (List.replicate count (.task number))).turnsLeft id ≤
      if id = number then x.turnsLeft id - count else x.turnsLeft id := by
  induction count generalizing x with
  | zero => simp [run]
  | succ count ih =>
      rw [List.replicate_succ, run_cons]
      refine Nat.le_trans (ih _) ?_
      split
      case isTrue same =>
        subst same
        have first := x.turnsLeft_step id
        omega
      case isFalse different => exact Nat.le_of_eq (x.turnsLeft_step_of_ne different)

/-- Turns given to some tasks leave none of them with more to do, and bring those to their end that
are given as many as they have left. -/
theorem turnsLeft_run_flatMap (turns : PoolTask → Nat) (tasks : List PoolTask) (x : Executor)
    (id : Nat) :
    (x.run (tasks.flatMap fun task => List.replicate (turns task) (.task task.ticket.id))).turnsLeft
        id ≤ x.turnsLeft id ∧
      ∀ task ∈ tasks, task.ticket.id = id → x.turnsLeft id ≤ turns task →
        (x.run (tasks.flatMap fun task =>
          List.replicate (turns task) (.task task.ticket.id))).turnsLeft id = 0 := by
  induction tasks generalizing x with
  | nil => exact ⟨Nat.le_refl _, fun _ member => absurd member List.not_mem_nil⟩
  | cons task rest ih =>
      rw [List.flatMap_cons, run_append]
      obtain ⟨less, done⟩ := ih (x.run (List.replicate (turns task) (.task task.ticket.id)))
      have first := x.turnsLeft_run_replicate id task.ticket.id (turns task)
      have mono : (x.run (List.replicate (turns task) (.task task.ticket.id))).turnsLeft id ≤
          x.turnsLeft id := by
        split at first <;> omega
      refine ⟨Nat.le_trans less mono, ?_⟩
      intro given member number enough
      rcases List.mem_cons.1 member with rfl | inRest
      · rw [if_pos number.symm] at first
        omega
      · exact done given inRest number (Nat.le_trans mono enough)

/-- Turns given to tasks change neither what is in flight nor where the submitter stands. -/
theorem control_run_tasks (schedule : Schedule) (tasks : ∀ turn ∈ schedule, ∃ id, turn = .task id)
    (x : Executor) :
    (x.run schedule).control = x.control ∧ (x.run schedule).inFlight = x.inFlight := by
  induction schedule generalizing x with
  | nil => exact ⟨rfl, rfl⟩
  | cons turn later ih =>
      obtain ⟨id, rfl⟩ := tasks turn List.mem_cons_self
      obtain ⟨control, inFlight⟩ :=
        ih (fun turn member => tasks turn (List.mem_cons_of_mem _ member)) (x.step (.task id))
      have moved : (x.step (.task id)).control = x.control ∧
          (x.step (.task id)).inFlight = x.inFlight := by
        simp only [step]
        split
        case h_2 => exact ⟨rfl, rfl⟩
        case h_1 task _ =>
          refine ⟨control_stepTask x task, ?_⟩
          obtain ⟨_, _, _, _, same⟩ := x.stepTask_eq task
          rw [same]
      rw [run_cons]
      exact ⟨control.trans moved.1, inFlight.trans moved.2⟩

/-! ## The join to its end -/

namespace Consistent

/-- The task of a job in flight is not cancelled, and has no more to do than a whole task. -/
theorem task_of_inFlight (consistent : Consistent c timeout jobs x) {ticket : Ticket}
    (inFlight : ticket ∈ x.inFlight) :
    ∃ task ∈ x.tasks, task.ticket = ticket ∧ task.claim ≠ .cancelled ∧
      x.task? ticket.id = some task ∧ x.turnsLeft ticket.id ≤ task.job.turns x.collaborators := by
  obtain ⟨job, submitted, stands⟩ := consistent.exists_job (holding_ne_of_inFlight inFlight)
  have member := mem_holding_inFlight inFlight
  have known : ticket = job.ticket ticket.id := stands.inFlight_subset ticket member
  rw [← show x.collaborators = c from consistent.control.collaborators] at stands
  -- In each standing in flight the one task held is the task of the number.
  have found {task : PoolTask} (held : (x.holding ticket.id).tasks = [task])
      (isTicket : task.ticket = job.ticket ticket.id) (live : task.claim ≠ .cancelled)
      (timely : task.stage.turnsLeft (task.job.turns x.collaborators) ≤
        task.job.turns x.collaborators) :
      ∃ task ∈ x.tasks, task.ticket = ticket ∧ task.claim ≠ .cancelled ∧
        x.task? ticket.id = some task ∧
        x.turnsLeft ticket.id ≤ task.job.turns x.collaborators := by
    have isTask : x.task? ticket.id = some task := by rw [task?_eq, held]; rfl
    refine ⟨task, ?_, isTicket.trans known.symm, live, isTask, ?_⟩
    · exact (List.mem_filter.1 (held ▸ List.mem_cons_self)).1
    · simpa only [turnsLeft, isTask] using timely
  generalize held : x.holding ticket.id = h at stands member found
  cases stands with
  | inline | received | cancelled => cases member
  | unclaimed mode seen early =>
      refine found rfl rfl (by simp) ?_
      rcases early with (rfl | rfl) | ⟨_, rfl⟩ <;> simp [Stage.turnsLeft]
  | working mode leads timely => exact found rfl rfl (by simp) timely
  | sent mode => exact found rfl rfl (by simp) (Nat.zero_le _)

/-- Where the tasks of all jobs in flight have ended, an outcome is there to be received. -/
theorem channel_of_ended (consistent : Consistent c timeout jobs x) {deadline : Bool}
    (phase : x.phase = .waiting deadline) (inFlight : x.inFlight ≠ [])
    (ended : ∀ ticket ∈ x.inFlight, x.turnsLeft ticket.id = 0) :
    ∃ outcome later, x.channel = outcome :: later := by
  obtain ⟨ticket, member⟩ := List.exists_mem_of_ne_nil _ inFlight
  rcases consistent.awaited phase member with ⟨status, sent⟩ | ⟨task, found, _, live⟩
  · exact List.exists_cons_of_ne_nil (List.ne_nil_of_mem sent)
  · have pos := Stage.turnsLeft_pos (four_le_turns x.collaborators task.job) live
    have done := ended ticket member
    simp only [turnsLeft, found] at done
    omega

/-- Receiving an outcome takes a job out of flight. -/
theorem inFlight_receive (consistent : Consistent c timeout jobs x) {outcome : Outcome}
    {later : List Outcome} (channel : x.channel = outcome :: later) :
    (x.receive outcome later).inFlight.length < x.inFlight.length := by
  have held := mem_holding_channel channel
  have inFlight : ∃ ticket ∈ (x.holding outcome.id).inFlight, ticket.id = outcome.id := by
    obtain ⟨job, _, stands⟩ := consistent.exists_job (holding_ne_of_channel channel)
    generalize x.holding outcome.id = h at stands held
    cases stands with
    | sent mode => exact ⟨_, List.mem_cons_self, rfl⟩
    | inline | unclaimed | working | received | cancelled => cases held
  obtain ⟨ticket, member, number⟩ := inFlight
  refine List.length_filter_lt_length_iff_exists.2 ⟨ticket, (List.mem_filter.1 member).1, ?_⟩
  simp [number]

/-- Once the tasks of all jobs in flight have ended, the outcomes are received one by one and the
join ends. -/
theorem receive_all (consistent : Consistent c timeout jobs x) {deadline : Bool}
    (phase : x.phase = .waiting deadline)
    (ended : ∀ ticket ∈ x.inFlight, x.turnsLeft ticket.id = 0) (count : Nat)
    (enough : x.inFlight.length < count) :
    (x.run (List.replicate count .submitter)).isReturned = true := by
  induction count generalizing x with
  | zero => exact absurd enough (Nat.not_lt_zero _)
  | succ count ih =>
      have joins : x.step .submitter = x.join := by
        simp only [Executor.step, Executor.stepSubmitter, phase]
      rw [List.replicate_succ, run_cons, joins]
      by_cases empty : x.inFlight = []
      · have closes : x.join = x.close := by simp [Executor.join, empty]
        rw [closes, isReturned_iff]
        exact ((consistent.close phase empty).calls_run rfl _).2
      · obtain ⟨outcome, later, channel⟩ := consistent.channel_of_ended phase empty ended
        have receives : x.join = x.receive outcome later := by
          simp [Executor.join, empty, channel]
        rw [receives]
        have fewer := consistent.inFlight_receive channel
        refine ih (consistent.receive phase channel) phase ?_ (by omega)
        intro ticket member
        exact ended ticket (List.mem_filter.1 member).1

/-- From wherever a run has come to, `complete` ends its join. -/
theorem isReturned_complete (consistent : Consistent c timeout jobs x) :
    x.complete.isReturned = true := by
  unfold complete
  split
  case isTrue returned => exact returned
  case isFalse notReturned =>
    -- The submitter comes to wait, then every live task is brought to its end, and then the join
    -- receives what they have sent.
    obtain ⟨deadline, phase⟩ := ownTurns_waiting (Bool.eq_false_iff.2 notReturned)
    have consistentY := consistent.run (List.replicate x.ownTurns .submitter)
    generalize x.run (List.replicate x.ownTurns .submitter) = y at phase consistentY
    simp only [closing, run_append]
    set live := y.tasks.filter (·.claim ≠ .cancelled)
    set turns : Schedule := live.flatMap fun task =>
      List.replicate (task.job.turns y.collaborators) (.task task.ticket.id) with turns_eq
    obtain ⟨control, inFlight⟩ := control_run_tasks turns (by
      intro turn member
      obtain ⟨task, _, given⟩ := List.mem_flatMap.1 member
      exact ⟨_, List.eq_of_mem_replicate given⟩) y
    refine (consistentY.run turns).receive_all ((congrArg Control.phase control).trans phase) ?_ _
      (by rw [inFlight]; exact Nat.lt_succ_self _)
    intro ticket member
    rw [inFlight] at member
    obtain ⟨task, isTask, rfl, uncancelled, _, enough⟩ := consistentY.task_of_inFlight member
    have isLive : task ∈ live := List.mem_filter.2 ⟨isTask, by simpa using uncancelled⟩
    exact (turnsLeft_run_flatMap (·.job.turns y.collaborators) live y task.ticket.id).2 task isLive
      rfl enough

/-- The join ends with nothing in flight: no job is ever reported as lost. -/
theorem inFlight_of_returning (consistent : Consistent c timeout jobs x) (turn : Turn)
    (running : x.isReturned = false) (returned : (x.step turn).isReturned = true) :
    x.inFlight = [] := by
  rw [isReturned_iff] at returned
  have notReturned : x.phase ≠ .returned := by
    intro ended
    rw [isReturned_iff.2 ended] at running
    cases running
  cases turn with
  | deadline =>
      simp only [Executor.step, Executor.stepDeadline] at returned
      split at returned
      · cases returned
      · exact absurd returned notReturned
  | task id =>
      simp only [Executor.step] at returned
      split at returned
      case h_1 task _ =>
        exact absurd ((congrArg Control.phase (control_stepTask x task)).symm.trans returned)
          notReturned
      case h_2 => exact absurd returned notReturned
  | submitter =>
      simp only [Executor.step, Executor.stepSubmitter] at returned
      split at returned
      case h_1 => cases returned
      case h_2 job later _ => cases (phase_submit _ job).symm.trans returned
      case h_3 deadline phase =>
        by_contra inFlight
        simp only [Executor.join, List.isEmpty_iff, inFlight, if_false] at returned
        split at returned
        case h_1 => exact notReturned returned
        case h_2 channel =>
          rw [consistent.not_disconnected phase inFlight channel] at returned
          exact notReturned returned
      case h_4 => cases returned
      case h_5 => cases (congrArg Control.phase (control_resume x)).symm.trans returned
      case h_6 ticket later _ => cases (phase_cancel _ ticket).symm.trans returned
      case h_7 phase => exact absurd phase notReturned

end Consistent

/-- Wherever a run has come to: if the join waits, then the outcome of every job in flight is on its
way or its task has not ended, so that a join with a job in flight is never disconnected; the join
ends only with nothing in flight, so that no job is reported as lost; and it can always be brought to
its end. -/
theorem join_never_waits_in_vain (c : Collaborators) (timeout : Bool) (jobs : List Job)
    (schedule : Schedule) :
    let x := (start c timeout jobs).run schedule
    (∀ deadline, x.phase = .waiting deadline →
      (∀ ticket ∈ x.inFlight,
        (∃ status, ticket.outcome status ∈ x.channel) ∨
          ∃ task, x.task? ticket.id = some task ∧ task.ticket = ticket ∧ task.stage ≠ .ended) ∧
      (x.inFlight ≠ [] → x.channel = [] → x.isDisconnected = false)) ∧
    (∀ turn, x.isReturned = false → (x.step turn).isReturned = true → x.inFlight = []) ∧
    x.complete.isReturned = true := by
  have consistent := consistent_run c timeout jobs schedule
  refine ⟨fun deadline phase => ⟨?_, ?_⟩, ?_, consistent.isReturned_complete⟩
  · exact fun ticket member => consistent.awaited phase member
  · exact consistent.not_disconnected phase
  · exact consistent.inFlight_of_returning

theorem late_join_never_waits_in_vain :
    let x := (start lateCollaborators true lateJobs).run lateSchedule
    x.phase = .waiting false ∧ x.inFlight.map (·.id) = [1] ∧
      ∀ ticket ∈ x.inFlight,
        (∃ status, ticket.outcome status ∈ x.channel) ∨
          ∃ task, x.task? ticket.id = some task ∧ task.ticket = ticket ∧ task.stage ≠ .ended :=
  ⟨rfl, by decide,
    ((join_never_waits_in_vain lateCollaborators true lateJobs lateSchedule).1 false rfl).1⟩

end Executor

end TaskScript
