import TaskScript.Proofs.Executor.Whole
import TaskScript.Proofs.Pipeline.Categories

/-!
# Reading a text and running its jobs do not interfere

A compilation does two things at a time: it reads a text and makes records of it, and it has the
jobs of the text carried out. Neither is told by the other. Whoever is asked and however the jobs
are run, the records, the state and the errors are the same. And whatever the pass is, if only the
text is read to its end, the report on the jobs is the same, also where the pass is refused after
the jobs have been submitted.

* `Pipeline.Ends.result_eq`: the way in which a compilation ends tells its result.
* `Pipeline.Ends.alike`: a pipeline that reads the text in the same way ends alike.
* `Pipeline.report?_of_parsed`, `Pipeline.runJobs_of_untimed`: the report depends on the jobs and on
  who is asked only.
* `Pipeline.compile_without_interference`: both together.
-/

namespace TaskScript

/-- The report that an error carries. -/
def CompileError.report? : CompileError → Option Report
  | lex _ | parse _ | executor _ => none
  | brokenPass _ report => some report

/-- The report on the jobs of a compilation that came so far as to submit them. -/
def Compilation.report? (compilation : Compilation) : Option Report :=
  match compilation.result with
  | .ok compiled => some compiled.report
  | .error e => e.report?

/-- Two results that differ in nothing but what became of the jobs. -/
inductive AlikeButJobs :
    Except CompileError Compiled → Except CompileError Compiled → Prop
  | done {compiled compiled' : Compiled} (records : compiled.records = compiled'.records)
      (state : compiled.state = compiled'.state)
      (warnings : compiled.warnings = compiled'.warnings) :
      AlikeButJobs (.ok compiled) (.ok compiled')
  | lex (warnings : List (Located LexWarning)) :
      AlikeButJobs (.error (.lex warnings)) (.error (.lex warnings))
  | parse (error : Located ParseError) :
      AlikeButJobs (.error (.parse error)) (.error (.parse error))
  | broken (pass : String) (report report' : Report) :
      AlikeButJobs (.error (.brokenPass pass report)) (.error (.brokenPass pass report'))

namespace Pipeline

variable {p q : Pipeline} {plan plan' : Plan} {read : Tokens}
  {result : Except CompileError Compiled}

/-! ## How a compilation ends tells its result -/

theorem LetsThrough.goesOn (letThrough : p.LetsThrough read) :
    (!read.warnings.isEmpty && p.config.effectiveOptions.strictLex) = false := by
  rcases letThrough with nothing | lenient
  · rw [nothing]
    rfl
  · rw [lenient, Bool.and_false]

theorem Ends.result_eq (ends : p.Ends plan read result) (name : String) :
    (p.compileTokens plan name read).result = result := by
  unfold compileTokens
  cases ends with
  | rejected dropped strict =>
    have stopped : (!read.warnings.isEmpty && p.config.effectiveOptions.strictLex) = true := by
      rw [strict, Bool.and_true, Bool.not_eq_true', List.isEmpty_eq_false_iff]
      exact dropped
    rw [if_pos stopped]
  | unparsed letThrough failed =>
    rw [letThrough.goesOn]
    simp only [failed, Bool.false_eq_true, if_false]
  | unstarted letThrough succeeded fault =>
    rw [letThrough.goesOn]
    simp only [succeeded, Bool.false_eq_true, if_false, finish, fault]
  | broken letThrough succeeded starts refused =>
    rw [PoolStarts] at starts
    rw [letThrough.goesOn]
    simp only [succeeded, Bool.false_eq_true, if_false, finish, starts, proceed, refused]
  | done letThrough succeeded starts accepted =>
    rw [PoolStarts] at starts
    rw [letThrough.goesOn]
    simp only [succeeded, Bool.false_eq_true, if_false, finish, starts, proceed, accepted]

theorem Ends.compileUnder_eq {name text : String}
    (ends : p.Ends plan (Source.ofText name text).tokenize result) :
    (p.compileUnder plan name text).result = result := ends.result_eq name

/-! ## Who is asked does not matter to what is read -/

theorem optimized?_congr (pass : p.pass = q.pass)
    (optimizing : p.config.effectiveOptions.skipOptimize = q.config.effectiveOptions.skipOptimize)
    (program : Program) : p.optimized? program = q.optimized? program := by
  unfold optimized?
  rw [pass, optimizing]

theorem LetsThrough.congr
    (strict : p.config.effectiveOptions.strictLex = q.config.effectiveOptions.strictLex)
    (letThrough : p.LetsThrough read) : q.LetsThrough read := by
  unfold LetsThrough at letThrough ⊢
  rw [← strict]
  exact letThrough

theorem Ends.alike (ends : p.Ends plan read result) (starts : p.PoolStarts plan)
    (starts' : q.PoolStarts plan') (pass : p.pass = q.pass)
    (optimizing : p.config.effectiveOptions.skipOptimize = q.config.effectiveOptions.skipOptimize)
    (strict : p.config.effectiveOptions.strictLex = q.config.effectiveOptions.strictLex) :
    ∃ result', q.Ends plan' read result' ∧ AlikeButJobs result result' := by
  cases ends with
  | rejected dropped isStrict =>
    exact ⟨_, .rejected dropped (strict ▸ isStrict), .lex _⟩
  | unparsed letThrough failed =>
    exact ⟨_, .unparsed (letThrough.congr strict) failed, .parse _⟩
  | unstarted _ _ fault => exact absurd fault (starts.fault_ne _)
  | broken letThrough succeeded _ refused =>
    rw [optimized?_congr pass optimizing] at refused
    rw [pass]
    exact ⟨_, .broken (letThrough.congr strict) succeeded starts' refused, .broken _ _ _⟩
  | done letThrough succeeded _ accepted =>
    rw [optimized?_congr pass optimizing] at accepted
    exact ⟨_, .done (letThrough.congr strict) succeeded starts' accepted, .done rfl rfl rfl⟩

/-! ## The pass does not matter to the jobs -/

theorem report?_of_parsed {name text : String} (starts : p.PoolStarts plan)
    (letThrough : p.LetsThrough (Source.ofText name text).tokenize)
    (succeeded : (State.parse {} (Source.ofText name text).tokenize.tokens).error? = none) :
    (p.compileUnder plan name text).report? =
      some (p.runJobs plan (State.parse {} (Source.ofText name text).tokenize.tokens).jobs).1 := by
  unfold Compilation.report?
  cases passed :
      p.optimized? (State.parse {} (Source.ofText name text).tokenize.tokens).nodes with
  | none =>
    rw [(Ends.broken letThrough succeeded starts passed).compileUnder_eq]
    rfl
  | some program => rw [(Ends.done letThrough succeeded starts passed).compileUnder_eq]

/-- Without a deadline the report is told by the jobs and by those who are asked. -/
theorem runJobs_of_untimed (untimed : p.config.executor.timeout? = none) (plan : Plan)
    (jobs : List Job) :
    (p.runJobs plan jobs).1 =
      if p.config.effectiveOptions.skipJobs then {}
      else ⟨(p.allJobs jobs).mapIdx fun id job =>
        (job.ticket id).outcome (job.perform p.collaborators).2⟩ := by
  unfold runJobs
  split
  case isTrue => rfl
  case isFalse =>
    have outcomes := Executor.outcomes_runAll_of_untimed p.collaborators (p.allJobs jobs)
      (plan.schedule (p.allJobs jobs))
    rw [untimed]
    exact congrArg Report.mk outcomes

/-- Where the threads for the jobs start, two pipelines with the same pass, of which both or neither
runs it and both or neither is strict, come to the same records, state and warnings, to the same
error about the text, or to a refusal of that pass. They may differ in everyone who is asked, in
workers, delay, deadline and deployment, in whether jobs are run at all, and in who moves when. And
two pipelines that ask the same collaborators, deploy the same and set no deadline come to the same
report on every text that both read to its end, whatever their passes are. -/
theorem compile_without_interference (p q : Pipeline) (plan plan' : Plan) (name text : String) :
    let read := (Source.ofText name text).tokenize
    p.PoolStarts plan → q.PoolStarts plan' →
    (p.pass = q.pass →
      p.config.effectiveOptions.skipOptimize = q.config.effectiveOptions.skipOptimize →
      p.config.effectiveOptions.strictLex = q.config.effectiveOptions.strictLex →
      AlikeButJobs (p.compileUnder plan name text).result
        (q.compileUnder plan' name text).result) ∧
    (p.collaborators = q.collaborators →
      p.config.pipeline.deploy? = q.config.pipeline.deploy? →
      p.config.effectiveOptions.skipJobs = q.config.effectiveOptions.skipJobs →
      p.config.effectiveOptions.strictLex = q.config.effectiveOptions.strictLex →
      p.config.executor.timeout? = none → q.config.executor.timeout? = none →
      p.LetsThrough read → (State.parse {} read.tokens).error? = none →
      ∃ report, (p.compileUnder plan name text).report? = some report ∧
        (q.compileUnder plan' name text).report? = some report) := by
  intro read starts starts'
  constructor
  · intro pass optimizing strict
    obtain ⟨result', ends', alike⟩ :=
      (p.compileUnder_ends plan name text).alike starts starts' pass optimizing strict
    rw [ends'.compileUnder_eq]
    exact alike
  · intro asked deploy skipping strict untimed untimed' letThrough succeeded
    refine ⟨_, report?_of_parsed starts letThrough succeeded, ?_⟩
    rw [report?_of_parsed starts' (letThrough.congr strict) succeeded, runJobs_of_untimed untimed,
      runJobs_of_untimed untimed', asked, skipping]
    unfold allJobs
    rw [deploy]

/-- Everyone who is asked crashes, there are no nodes to deploy to, and the deadline passes at
once. -/
def crashing : Pipeline where
  config := { executor := { timeout? := some 0 }, pipeline := { deploy? := some "release" } }
  pass := .annotate
  collaborators := ⟨.always (.crash none), .always (.crash none), [], .standard⟩

theorem mixture_without_interference :
    AlikeButJobs ((ofConfig {}).compile "" mixture).result (crashing.compile "" mixture).result ∧
    ∃ report, (marking.compile "" mixture).report? = some report ∧
      (reversing.compile "" mixture).report? = some report := by
  constructor
  · exact (compile_without_interference (ofConfig {}) crashing _ _ "" mixture
      (poolStarts_plan _) crashing.poolStarts_plan).1 rfl rfl rfl
  · have succeeded : (State.parse {} (Source.ofText "" mixture).tokenize.tokens).error? = none := by
      decide +kernel
    exact (compile_without_interference marking reversing _ _ "" mixture
      marking.poolStarts_plan reversing.poolStarts_plan).2 rfl rfl rfl rfl rfl rfl (.inr rfl)
      succeeded

end Pipeline

end TaskScript
