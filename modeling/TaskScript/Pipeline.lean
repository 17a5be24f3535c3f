import TaskScript.Config
import TaskScript.Diagnostic
import TaskScript.Lexer
import TaskScript.Parsed
import TaskScript.Pass
import TaskScript.Record

/-!
# The pipeline

A compilation tokenizes and parses a program, submits its jobs, runs a pass over it, makes the
records and joins the jobs. Nothing is submitted before the whole program is read, and jobs that
fail do not stop the compilation. The pass is checked; if it breaks the program, the jobs already
submitted are joined before the error is given.

Whether the threads for the jobs start, and which of the concurrent moves of the executor comes
first, is up to the system: a plan tells it. `Pipeline.compileUnder` takes any plan,
`Pipeline.compile` the one that the settings lead to where threads start.
-/

namespace TaskScript

/-- Why a program does not compile. -/
inductive CompileError where
  | lex (warnings : List (Located LexWarning))
  | parse (error : Located ParseError)
  | brokenPass (pass : String) (report : Report)
  /-- The threads for the jobs do not start, for the reason that the system gives. -/
  | executor (reason : String)

namespace CompileError

/-- The text of the error, for a program of the given name. -/
def message (name : String) : CompileError → String
  | lex warnings =>
    Numeral.decimal warnings.length ++ " character(s) dropped in strict mode"
  | parse error => error.text name ParseError.message
  | brokenPass pass _ => "Optimization pass `" ++ pass ++ "` altered the program structure"
  | executor reason => "Failed to start executor: " ++ reason

/-- The text of the error and those of what lies behind it, the nearest first. A pool that does not
start passes on the reason of the system. -/
def causes (name : String) (error : CompileError) : List String :=
  error.message name :: match error with
    | executor reason => [reason, reason]
    | lex _ | parse _ | brokenPass .. => []

end CompileError

/-- A compiled program. -/
structure Compiled where
  records : List Record
  report : Report
  state : State
  warnings : List (Located LexWarning)

/-- What a compilation comes to: its result, the calls of collaborators and the log. -/
structure Compilation where
  result : Except CompileError Compiled
  calls : List CallRecord := []
  log : List LogEntry := []

/-- A way to compile programs. -/
structure Pipeline where
  config : Config
  pass : Pass
  collaborators : Collaborators

/-- What is up to the system: why a pool of so many threads does not start, if it does not, and a
schedule for the jobs at hand. -/
structure Plan where
  poolFault? : Nat → Option String
  schedule : List Job → Schedule

namespace Pipeline

/-- The pipeline of a configuration, with the default pass and stand-ins for collaborators. -/
def ofConfig (config : Config) : Pipeline where
  config := config
  pass := .annotate
  collaborators := .stubs config.pipeline.deployNodes

/-- The pipeline of a configuration, if its nodes can be listed. -/
def ofConfig? (config : Config) : Option Pipeline :=
  (Collaborators.stubs? config.pipeline.deployNodes).map fun collaborators =>
    { config, pass := .annotate, collaborators }

/-- The jobs of a compilation: those of the program, and the deployment if there is one. -/
def allJobs (p : Pipeline) (jobs : List Job) : List Job :=
  let deployment? := p.config.pipeline.deploy?.map fun task =>
    { mode := .distributed, payload := task : Job }
  jobs ++ deployment?.toList

/-- An event of the pipeline. -/
def event (level : Level) (message : String) : LogEntry := ⟨level, .pipeline, message⟩

/-- What the jobs of a compilation come to: their report, the calls and the log. Where jobs are
skipped nothing is submitted at all. -/
def runJobs (p : Pipeline) (plan : Plan) (jobs : List Job) :
    Report × List CallRecord × List LogEntry :=
  if p.config.effectiveOptions.skipJobs then ({}, [], [])
  else
    let jobs := p.allJobs jobs
    let done := Executor.runAll p.collaborators p.config.executor.timeout?.isSome jobs
      (plan.schedule jobs)
    (done.report, done.calls, done.log)

/-- Why the threads for the jobs do not start, if they do not. Where jobs are skipped there are
none, and else one at least. -/
def poolFault? (p : Pipeline) (plan : Plan) : Option String :=
  if p.config.effectiveOptions.skipJobs then none
  else plan.poolFault? (max p.config.executor.workers 1)

/-- The program after the pass, or nothing if the pass breaks it. -/
def optimized? (p : Pipeline) (program : Program) : Option Program :=
  if p.config.effectiveOptions.skipOptimize then some program
  else
    let after := p.pass.run program
    if program.agrees after then some after else none

/-- What the pass reports, and whether it is done. -/
def passLog (p : Pipeline) (program : Program) : List LogEntry :=
  if p.config.effectiveOptions.skipOptimize then []
  else
    p.pass.log program
      ++ if program.agrees (p.pass.run program) then
        [event .debug ("Pass `" ++ p.pass.name ++ "` done")]
      else []

/-- Runs the jobs of a program that has been read, and makes its records. -/
def proceed (p : Pipeline) (plan : Plan) (name : String) (warnings : List (Located LexWarning))
    (parsed : Parsed) : Compilation :=
  let (report, calls, jobsLog) := p.runJobs plan parsed.jobs
  let skipping :=
    if p.config.effectiveOptions.skipJobs then
      [event .debug ("Skipping " ++ Numeral.decimal parsed.jobs.length ++ " job(s)")]
    else []
  let log := skipping ++ jobsLog ++ p.passLog parsed.nodes
  match p.optimized? parsed.nodes with
  | none =>
    let failures :=
      if report.isSuccess then []
      else [event .warn
        (name ++ ": " ++ Numeral.decimal report.failed ++ " job(s) failed, "
          ++ Numeral.decimal report.cancelled
          ++ " cancelled before the broken pass was detected")]
    { result := .error (.brokenPass p.pass.name report), calls, log := log ++ failures }
  | some program =>
    let records := program.records
    let summary := event .info
      (name ++ ": " ++ Numeral.decimal records.length ++ " record(s), "
        ++ Numeral.decimal report.completed ++ "/" ++ Numeral.decimal report.outcomes.length
        ++ " job(s) completed")
    { result := .ok { records, report, state := parsed.state, warnings }
      calls
      log := log ++ program.recordsLog ++ [summary] }

/-- Compiles a program that has been read. Without threads nothing is submitted and no pass is
run. -/
def finish (p : Pipeline) (plan : Plan) (name : String) (warnings : List (Located LexWarning))
    (parsed : Parsed) : Compilation :=
  match p.poolFault? plan with
  | some reason => { result := .error (.executor reason) }
  | none => p.proceed plan name warnings parsed

/-- Compiles the tokens of a program. -/
def compileTokens (p : Pipeline) (plan : Plan) (name : String) (read : Tokens) : Compilation :=
  if !read.warnings.isEmpty && p.config.effectiveOptions.strictLex then
    { result := .error (.lex read.warnings) }
  else
    let dropped :=
      if read.warnings.isEmpty then []
      else [event .warn
        (name ++ ": dropped " ++ Numeral.decimal read.warnings.length ++ " character(s)")]
    let parsed := State.parse {} read.tokens
    let log := dropped ++ parsed.log name read.tokens.length
    match parsed.error? with
    | some error => { result := .error (.parse error), log }
    | none =>
      let rest := p.finish plan name read.warnings parsed
      { rest with log := log ++ rest.log }

/-- Compiles a program under a plan. -/
def compileUnder (p : Pipeline) (plan : Plan) (name text : String) : Compilation :=
  let read := (Source.ofText name text).tokenize
  let rest := p.compileTokens plan name read
  { rest with log := read.log name ++ rest.log }

/-- The plan that the settings lead to where threads start. -/
def plan (p : Pipeline) : Plan where
  poolFault? _ := none
  schedule jobs :=
    Timeline.schedule p.config.executor p.collaborators (jobs.map ({ job := · }))

/-- Compiles a program. -/
def compile (p : Pipeline) (name text : String) : Compilation := p.compileUnder p.plan name text

end Pipeline

end TaskScript
