import TaskScript.Proofs.Executor.Joined

/-!
# Asking node after node

A job on nodes asks them in order and stops at the first that does not answer with a line. A node
that refuses and one that crashes stop it alike, but are told apart in its status. Lines that came
before are not reported.

* `Job.ask_append`: requests that are answered with lines, and then others.
* `NodeVisit`: how a job on nodes goes, by the answers of the nodes.
* `NodeVisit.perform_eq`, `NodeVisit.exists_visit`: the job is carried out so, and there is always
  one way in which it goes.
* `Executor.jobs_visit_nodes`: who is asked for a job, and how it ends.
-/

namespace TaskScript

/-! ## Requests one after the other -/

namespace Job

variable {job : Job} {request : Request}

theorem ask_of_refusal {error : CollaboratorError} (reply : request.reply job = .refusal error)
    (later : List Request) :
    job.ask (request :: later) = ([request.call job], .error (request.blame error)) := by
  simp only [ask, reply]

theorem ask_of_crash {text? : Option String} (reply : request.reply job = .crash text?)
    (later : List Request) :
    job.ask (request :: later) = ([request.call job], .error (.crashed text?)) := by
  simp only [ask, reply]

theorem ask_of_line {text : String} (reply : request.reply job = .line text)
    (later : List Request) :
    job.ask (request :: later) =
      (request.call job :: (job.ask later).1, (job.ask later).2.map (text :: ·)) := by
  simp only [ask, reply]

/-- Requests that are answered with lines are all made before those that follow, and a failure of
these leaves nothing of the lines. -/
theorem ask_append {earlier : List Request} {lines : List String}
    (answered : earlier.map (·.reply job) = lines.map .line) (later : List Request) :
    job.ask (earlier ++ later) =
      (earlier.map (·.call job) ++ (job.ask later).1, (job.ask later).2.map (lines ++ ·)) := by
  induction earlier generalizing lines with
  | nil =>
    obtain rfl : lines = [] := List.map_eq_nil_iff.mp answered.symm
    show job.ask later = ((job.ask later).1, (job.ask later).2.map id)
    rw [Except.map_id]
    rfl
  | cons request earlier ih =>
    obtain ⟨text, lines, rfl, reply, others⟩ := List.map_eq_cons_iff.mp answered.symm
    rw [List.cons_append, ask_of_line reply.symm, ih others.symm]
    cases (job.ask later).2 with
    | ok | error => rfl

end Job

/-! ## Nodes one after the other -/

/-- The calls to the first nodes, one to each. -/
def nodeCalls (payload : String) (args : Args) (count : Nat) : List Call :=
  (List.range count).map fun index => ⟨.node index, payload, args⟩

/-- How a job on nodes goes: the calls that are made, in order, and how it ends. -/
inductive NodeVisit (nodes : List Collaborator) (payload : String) (args : Args) :
    List Call → Status → Prop
  /-- There is nobody to ask. -/
  | nowhere (empty : nodes = []) : NodeVisit nodes payload args [] (.failed .noNodes)
  /-- Every node answers with a line. -/
  | everywhere {lines : List String} (present : nodes ≠ [])
      (answered : nodes.map (·.answer payload args) = lines.map .line) :
      NodeVisit nodes payload args (nodeCalls payload args nodes.length) (.completed lines)
  /-- A node refuses, and every node before it answers with a line. -/
  | refused {index : Nat} {node : Collaborator} {error : CollaboratorError}
      (there : nodes[index]? = some node) (refuses : node.answer payload args = .refusal error)
      (first : ∀ other ∈ nodes.take index, ∃ text, other.answer payload args = .line text) :
      NodeVisit nodes payload args (nodeCalls payload args (index + 1))
        (.failed (.node index error))
  /-- A node crashes, and every node before it answers with a line. -/
  | crashed {index : Nat} {node : Collaborator} {text? : Option String}
      (there : nodes[index]? = some node) (crashes : node.answer payload args = .crash text?)
      (first : ∀ other ∈ nodes.take index, ∃ text, other.answer payload args = .line text) :
      NodeVisit nodes payload args (nodeCalls payload args (index + 1))
        (.failed (.crashed text?))

/-- The requests to nodes that are numbered from a number on. -/
def requestsFrom (start : Nat) (nodes : List Collaborator) : List Request :=
  (nodes.zipIdx start).map fun entry => ⟨.node entry.2, entry.1⟩

theorem reply_requestsFrom (job : Job) (start : Nat) (nodes : List Collaborator) :
    (requestsFrom start nodes).map (·.reply job) =
      nodes.map (·.answer job.payload job.args) := by
  induction nodes generalizing start with
  | nil => rfl
  | cons node nodes ih => exact congrArg (node.answer job.payload job.args :: ·) (ih (start + 1))

theorem call_requestsFrom (job : Job) (start : Nat) (nodes : List Collaborator) :
    (requestsFrom start nodes).map (·.call job) =
      (List.range' start nodes.length).map fun index => ⟨.node index, job.payload, job.args⟩ := by
  induction nodes generalizing start with
  | nil => rfl
  | cons node nodes ih =>
    exact congrArg (Call.mk (.node start) job.payload job.args :: ·) (ih (start + 1))

theorem call_requestsFrom_zero (job : Job) (nodes : List Collaborator) :
    (requestsFrom 0 nodes).map (·.call job) = nodeCalls job.payload job.args nodes.length := by
  rw [call_requestsFrom, nodeCalls, List.range_eq_range']

theorem requestsFrom_append (start : Nat) (earlier later : List Collaborator) :
    requestsFrom start (earlier ++ later) =
      requestsFrom start earlier ++ requestsFrom (start + earlier.length) later := by
  simp [requestsFrom, List.zipIdx_append]

theorem nodeCalls_succ (payload : String) (args : Args) (count : Nat) :
    nodeCalls payload args (count + 1) =
      nodeCalls payload args count ++ [⟨.node count, payload, args⟩] := by
  simp [nodeCalls, List.range_succ]

namespace NodeVisit

variable {c : Collaborators} {nodes : List Collaborator} {payload : String} {args : Args}

theorem exists_lines
    (answered : ∀ node ∈ nodes, ∃ text, node.answer payload args = .line text) :
    ∃ lines : List String, nodes.map (·.answer payload args) = lines.map .line := by
  induction nodes with
  | nil => exact ⟨[], rfl⟩
  | cons node nodes ih =>
    rw [List.forall_mem_cons] at answered
    obtain ⟨text, first⟩ := answered.1
    obtain ⟨lines, others⟩ := ih answered.2
    exact ⟨text :: lines, by simp [first, others]⟩

theorem requests_of_present (present : c.nodes ≠ []) :
    Job.requests c ⟨.distributed, payload, args⟩ = .ok (requestsFrom 0 c.nodes) := by
  have notEmpty : c.nodes.isEmpty = false := List.isEmpty_eq_false_iff.mpr present
  simp only [Job.requests, notEmpty]
  rfl

/-- Where the nodes before one have answered with lines, all depends on that node: what it makes of
the job is what becomes of it, after one call to each node before. -/
theorem perform_at {index : Nat} {node : Collaborator} (there : c.nodes[index]? = some node)
    (first : ∀ other ∈ c.nodes.take index, ∃ text, other.answer payload args = .line text) :
    let job : Job := ⟨.distributed, payload, args⟩
    ∃ (lines : List String) (later : List Request),
      let rest := job.ask (⟨.node index, node⟩ :: later)
      job.perform c =
        (nodeCalls payload args index ++ rest.1, .ofResult (rest.2.map (lines ++ ·))) := by
  intro job
  obtain ⟨inside, isNode⟩ := List.getElem?_eq_some_iff.mp there
  obtain ⟨lines, answered⟩ := exists_lines first
  have present : c.nodes ≠ [] := List.ne_nil_of_length_pos (Nat.zero_lt_of_lt inside)
  have split : c.nodes = c.nodes.take index ++ node :: c.nodes.drop (index + 1) := by
    rw [← isNode, ← List.drop_eq_getElem_cons inside, List.take_append_drop]
  have length : (c.nodes.take index).length = index := by
    rw [List.length_take]
    omega
  have requests : requestsFrom 0 c.nodes = requestsFrom 0 (c.nodes.take index) ++
      ⟨.node index, node⟩ :: requestsFrom (index + 1) (c.nodes.drop (index + 1)) := by
    conv_lhs => rw [split, requestsFrom_append, length, Nat.zero_add]
    rfl
  refine ⟨lines, requestsFrom (index + 1) (c.nodes.drop (index + 1)), ?_⟩
  rw [Job.perform_of_ok (requests_of_present present), requests,
    Job.ask_append ((reply_requestsFrom job 0 _).trans answered), call_requestsFrom_zero, length]

/-- A job on nodes is carried out as the answers of the nodes have it. -/
theorem perform_eq {calls : List Call} {status : Status}
    (visit : NodeVisit c.nodes payload args calls status) :
    Job.perform c ⟨.distributed, payload, args⟩ = (calls, status) := by
  cases visit with
  | nowhere empty =>
    apply Job.perform_of_error
    simp [Job.requests, empty]
  | @everywhere lines present answered =>
    have replies := (reply_requestsFrom ⟨.distributed, payload, args⟩ 0 c.nodes).trans answered
    have all := Job.ask_append replies []
    rw [List.append_nil, call_requestsFrom_zero] at all
    rw [Job.perform_of_ok (requests_of_present present), all]
    simp [Job.ask, Except.map, Status.ofResult]
  | @refused index node error there refuses first =>
    obtain ⟨lines, later, performed⟩ := perform_at there first
    have reply : Request.reply ⟨.node index, node⟩ ⟨.distributed, payload, args⟩ =
      .refusal error := refuses
    rw [performed, Job.ask_of_refusal reply, nodeCalls_succ]
    rfl
  | @crashed index node text? there crashes first =>
    obtain ⟨lines, later, performed⟩ := perform_at there first
    have reply : Request.reply ⟨.node index, node⟩ ⟨.distributed, payload, args⟩ =
      .crash text? := crashes
    rw [performed, Job.ask_of_crash reply, nodeCalls_succ]
    rfl

/-- All nodes answer with lines, or there is a first that does not. -/
theorem lines_or_first (nodes : List Collaborator) (payload : String) (args : Args) :
    (∃ lines : List String, nodes.map (·.answer payload args) = lines.map .line) ∨
      ∃ index node, nodes[index]? = some node ∧
        (∀ text, node.answer payload args ≠ .line text) ∧
        ∀ other ∈ nodes.take index, ∃ text, other.answer payload args = .line text := by
  induction nodes with
  | nil => exact .inl ⟨[], rfl⟩
  | cons node nodes ih =>
    by_cases answered : ∃ text, node.answer payload args = .line text
    · obtain ⟨text, reply⟩ := answered
      rcases ih with ⟨lines, others⟩ | ⟨index, other, there, fails, first⟩
      · exact .inl ⟨text :: lines, by simp [reply, others]⟩
      · refine .inr ⟨index + 1, other, there, fails, ?_⟩
        rw [List.take_succ_cons, List.forall_mem_cons]
        exact ⟨⟨text, reply⟩, first⟩
    · refine .inr ⟨0, node, rfl, ?_, by simp⟩
      exact fun text reply => answered ⟨text, reply⟩

theorem exists_visit (nodes : List Collaborator) (payload : String) (args : Args) :
    ∃ calls status, NodeVisit nodes payload args calls status := by
  by_cases empty : nodes = []
  · exact ⟨_, _, nowhere empty⟩
  · rcases lines_or_first nodes payload args with
      ⟨lines, answered⟩ | ⟨index, node, there, fails, first⟩
    · exact ⟨_, _, everywhere empty answered⟩
    · cases reply : node.answer payload args with
      | line text => exact absurd reply (fails text)
      | refusal error => exact ⟨_, _, refused there reply first⟩
      | crash text? => exact ⟨_, _, crashed there reply first⟩

theorem iff_perform {calls : List Call} {status : Status} :
    Job.perform c ⟨.distributed, payload, args⟩ = (calls, status) ↔
      NodeVisit c.nodes payload args calls status := by
  constructor
  · intro performed
    obtain ⟨_, _, visit⟩ := exists_visit c.nodes payload args
    cases visit.perform_eq.symm.trans performed
    exact visit
  · exact perform_eq

end NodeVisit

namespace Executor

/-- Who is asked for a job, and how it ends. A job on nodes goes as the answers of the nodes have
it. Any other asks one collaborator at most, that of the domain that its payload resolves to, and
nobody if it resolves to none. In every run that is over, whoever moved when, the calls made for a
job and its status are these, unless it was cancelled with nobody asked. -/
theorem jobs_visit_nodes (c : Collaborators) (payload : String) (args : Args) :
    (∀ calls status, Job.perform c ⟨.distributed, payload, args⟩ = (calls, status) ↔
      NodeVisit c.nodes payload args calls status) ∧
    (∀ mode, mode ≠ .distributed →
      let calls := (Job.perform c ⟨mode, payload, args⟩).1
      calls.length ≤ 1 ∧
      (∀ call ∈ calls, ∃ domain, c.registry.resolve payload = some domain ∧
        call = ⟨.domain domain, payload, args⟩) ∧
      (c.registry.resolve payload = none → calls = [])) ∧
    ∀ timeout jobs schedule id mode,
      let x := (start c timeout jobs).run schedule
      let job : Job := ⟨mode, payload, args⟩
      x.isReturned = true → jobs[id]? = some job →
        ∃ outcome, x.report.find? id = some outcome ∧
          (outcome.status = .cancelled ∧ x.callsFor id = [] ∧ timeout = true ∨
            job.perform c = (x.callsFor id, outcome.status)) := by
  refine ⟨fun calls status => NodeVisit.iff_perform, ?_, ?_⟩
  · intro mode notNodes calls
    have asked : calls = _ := Job.calls_perform_of_mode_ne notNodes
    rw [asked]
    cases resolved : c.registry.resolve payload with
    | none => simp
    | some domain => simp
  · intro timeout jobs schedule id mode x job returned submitted
    have consistent := consistent_run c timeout jobs schedule
    rw [isReturned_iff] at returned
    obtain ⟨status, only, fate⟩ := consistent.concluded returned submitted
    refine ⟨(job.ticket id).outcome status, find?_of_filter only, ?_⟩
    rcases fate with ⟨isCancelled, none, -, timed⟩ | ⟨same, calls⟩
    · exact .inl ⟨isCancelled, none, timed⟩
    · exact .inr (Prod.ext calls.symm same.symm)

/-- Three nodes: the first answers, the second refuses and the third would crash. -/
def reluctant : Collaborators :=
  ⟨.echo, .echo, [.echo, .always (.refusal (.rejected "full")), .always (.crash none)], {}⟩

/-- The task of the first job takes five turns and is waited for, while the second job fails on the
spot. -/
def reluctantRun : Executor :=
  (start reluctant false [⟨.distributed, "deploy", .empty⟩, ⟨.sync, "deploy", .empty⟩]).run
    (List.replicate 3 .submitter ++ List.replicate 5 (.task 0) ++ List.replicate 2 .submitter)

theorem reluctant_visits_nodes :
    reluctantRun.isReturned = true ∧
      reluctantRun.callsFor 0 =
        [⟨.node 0, "deploy", .empty⟩, ⟨.node 1, "deploy", .empty⟩] ∧
      (∃ outcome, reluctantRun.report.find? 0 = some outcome ∧
        outcome.status = .failed (.node 1 (.rejected "full"))) ∧
      (Job.perform reluctant ⟨.sync, "deploy", .empty⟩).1 = [] := by
  have returned : reluctantRun.isReturned = true := by decide
  obtain ⟨onNodes, elsewhere, inRuns⟩ := jobs_visit_nodes reluctant "deploy" .empty
  have visit : NodeVisit reluctant.nodes "deploy" .empty (nodeCalls "deploy" .empty 2)
      (.failed (.node 1 (.rejected "full"))) :=
    .refused rfl rfl (by simp [reluctant, Collaborator.echo])
  have performed := (onNodes _ _).mpr visit
  obtain ⟨outcome, found, fate⟩ := inRuns _ _ _ 0 .distributed returned rfl
  rcases fate with ⟨-, -, timed⟩ | same
  · cases timed
  · obtain ⟨calls, status⟩ := Prod.mk.inj (performed.symm.trans same)
    refine ⟨returned, calls.symm, ⟨outcome, found, status.symm⟩, ?_⟩
    exact (elsewhere .sync (by simp)).2.2 rfl

end Executor

end TaskScript
