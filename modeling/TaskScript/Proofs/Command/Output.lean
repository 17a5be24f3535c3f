import TaskScript.Command
import TaskScript.Proofs.Command.Files
import TaskScript.Proofs.Pipeline.Marking
import TaskScript.Proofs.Source.Printing

/-!
# What the command writes

The command writes nothing before the whole program has compiled, and what it writes then is told by
the text of the program and by whether the pass is run. Neither the jobs nor the place that the text
comes from have a part in it.

* `Command.Accepts`: what has to be in order for a program to compile.
* `Command.Orderly`: what is granted: the nodes can be listed, the messages about the program can be
  set, and the threads for its jobs start.
* `Command.emission`: what is written for a program.
* `Command.careful_invokeUnder`: an invocation that does not succeed leaves nothing behind.
* `Command.invokeUnder_aborts`, `Command.invokeUnder_delivers`: the two ways in which an invocation
  goes.
* `Command.run_writes_emission`: what a run of the command leaves behind, on its streams and in its
  files.
-/

namespace TaskScript

namespace Pipeline

/-- A pipeline with the default pass takes every program, and runs the pass unless it is skipped. -/
theorem optimized?_ofConfig (config : Config) (program : Program) :
    (ofConfig config).optimized? program =
      some (if config.effectiveOptions.skipOptimize then program else Pass.annotate.run program) := by
  cases skips : config.effectiveOptions.skipOptimize with
  | true => exact optimized?_of_skip skips program
  | false => exact optimized?_of_annotate rfl skips program

theorem ofConfig?_of_le {config : Config}
    (listed : config.pipeline.deployNodes ≤ Collaborators.nodeLimit) :
    ofConfig? config = some (ofConfig config) := by
  rw [ofConfig?, Collaborators.stubs?, if_pos listed]
  rfl

end Pipeline

namespace Command

/-! ## What the command is given -/

/-- The configuration that an invocation leads to: the one in its file, if it names a file. -/
def Configures (supplies : Supplies) : Option String → Config → Prop
  | none, config => config = {}
  | some _, config => ∃ bytes text, supplies.config = .ok bytes ∧
      String.fromUTF8? bytes = some text ∧ Config.ofToml text = .ok config

/-- The program of an invocation can be read, as text. -/
def Reads (supplies : Supplies) (text : String) : Prop :=
  ∃ bytes, supplies.program = .ok bytes ∧ String.fromUTF8? bytes = some text

/-- All is in order: the configuration is loaded, the program is read, nothing is dropped from it
where that is not allowed, and it parses. -/
structure Accepts (supplies : Supplies) (invocation : Invocation) (config : Config)
    (text : String) : Prop where
  configured : Configures supplies invocation.config? config
  reads : Reads supplies text
  clean : (settingsOf invocation config).effectiveOptions.strictLex = true →
    (Source.ofText "" text).tokenize.warnings = []
  parses : (State.parse {} (Source.ofText "" text).tokenize.tokens).error? = none

/-- The places that the messages about a program point at. A program that is rejected for what is
dropped from it is not parsed, and one that does not parse is told the parse error only. -/
def blamed (strict : Bool) (text : String) : List Span :=
  let read := (Source.ofText "" text).tokenize
  match !read.warnings.isEmpty && strict, (State.parse {} read.tokens).error? with
  | false, some e => [e.span]
  | false, none | true, _ => read.warnings.map (·.span)

/-- What is granted to an invocation beside the files that it is given. -/
structure Orderly (plans : Pipeline → Plan) (supplies : Supplies)
    (invocation : Invocation) : Prop where
  listed : ∀ config, Configures supplies invocation.config? config →
    config.pipeline.deployNodes ≤ Collaborators.nodeLimit
  settable : ∀ config text, Configures supplies invocation.config? config →
    Reads supplies text →
    ∀ span ∈ blamed (settingsOf invocation config).effectiveOptions.strictLex text,
      Diagnostics.Settable span
  starts : ∀ config, Configures supplies invocation.config? config →
    let p := Pipeline.ofConfig (settingsOf invocation config)
    p.PoolStarts (plans p)

/-- What is written for a program, with the pass or without. -/
def emission (skipOptimize : Bool) (text : String) : String :=
  let nodes := (State.parse {} (Source.ofText "" text).tokenize.tokens).nodes
  Record.emit (Program.records (if skipOptimize then nodes else Pass.annotate.run nodes))

variable {plans : Pipeline → Plan} {supplies : Supplies} {invocation : Invocation}
  {config : Config} {text : String}

theorem textOf_eq_ok_iff {file : Except FileError ByteArray} :
    textOf file = .ok text ↔ ∃ bytes, file = .ok bytes ∧ String.fromUTF8? bytes = some text := by
  cases file with
  | error e => simp [textOf]
  | ok bytes =>
    unfold textOf decode
    cases decoded : String.fromUTF8? bytes with
    | none => simp [decoded]
    | some other => simp [decoded]

theorem loadProgram_eq_ok_iff {input : String} :
    loadProgram supplies input = .ok text ↔ Reads supplies text := by
  unfold Reads
  rw [← textOf_eq_ok_iff, loadProgram]
  cases textOf supplies.program with
  | error cause => simp
  | ok other => simp

theorem loadConfig_eq_ok_iff {path? : Option String} :
    loadConfig supplies path? = .ok config ↔ Configures supplies path? config := by
  cases path? with
  | none => simp [loadConfig, Configures, eq_comm]
  | some path =>
    have found : Configures supplies (some path) config ↔
        ∃ text, textOf supplies.config = .ok text ∧ Config.ofToml text = .ok config := by
      simp only [Configures, textOf_eq_ok_iff]
      grind
    rw [found]
    unfold loadConfig
    cases textOf supplies.config with
    | error cause => simp
    | ok text =>
      cases toml : Config.ofToml text with
      | error e => simp [toml]
      | ok other => simp [toml]

/-! ## Messages -/

theorem blamed_of_rejected {strict : Bool}
    (dropped : (Source.ofText "" text).tokenize.warnings ≠ []) (isStrict : strict = true) :
    blamed strict text = (Source.ofText "" text).tokenize.warnings.map (·.span) := by
  have stops : (!(Source.ofText "" text).tokenize.warnings.isEmpty && strict) = true := by
    rw [isStrict, Bool.and_true, List.isEmpty_eq_false_iff.mpr dropped]
    rfl
  unfold blamed
  simp only [stops]

theorem blamed_of_unparsed {strict : Bool} {e : Located ParseError}
    (goesOn : (!(Source.ofText "" text).tokenize.warnings.isEmpty && strict) = false)
    (failed : (State.parse {} (Source.ofText "" text).tokenize.tokens).error? = some e) :
    blamed strict text = [e.span] := by
  unfold blamed
  simp only [goesOn, failed]

theorem blamed_of_parsed {strict : Bool}
    (parses : (State.parse {} (Source.ofText "" text).tokenize.tokens).error? = none) :
    blamed strict text = (Source.ofText "" text).tokenize.warnings.map (·.span) := by
  unfold blamed
  simp only [parses]
  cases !(Source.ofText "" text).tokenize.warnings.isEmpty && strict with
  | true | false => rfl

theorem printing_of_ok {before printed : String} {messages : Except String String}
    {goOn : String → Exit} (isPrinted : messages = .ok printed) :
    printing before messages goOn = goOn (before ++ printed) := by
  rw [isPrinted]
  rfl

theorem exists_warningsText {name kind : String} {warnings : List (Located LexWarning)}
    (settable : ∀ span ∈ warnings.map (·.span), Diagnostics.Settable span) :
    ∃ printed, warningsText (.ofText name text) kind warnings = .ok printed := by
  refine (Diagnostics.text_isOk_iff _).mpr ?_
  rw [List.forall_mem_map] at settable ⊢
  exact settable

theorem exists_parseErrorText {name : String} {e : Located ParseError}
    (settable : ∀ span ∈ [e.span], Diagnostics.Settable span) :
    ∃ printed, parseErrorText (.ofText name text) e = .ok printed := by
  refine (Diagnostics.text_isOk_iff _).mpr ?_
  rw [List.forall_mem_singleton] at settable ⊢
  exact settable

/-! ## Invocations that fail -/

/-- Nothing is on the output of a command or in its file. -/
def Untouched (exit : Exit) : Prop := exit.stdout = "" ∧ exit.written? = none

/-- The exit of a command that has given up. -/
def Aborts (exit : Exit) : Prop := exit.code = 1 ∧ Untouched exit

theorem aborts_failure (messages message : String) (causes : List String) :
    Aborts (failure messages message causes) := ⟨rfl, rfl, rfl⟩

theorem aborts_printing {before message : String} {messages : Except String String}
    (isPrinted : ∃ printed, messages = .ok printed) :
    Aborts (printing before messages (failure · message [])) := by
  obtain ⟨printed, isPrinted⟩ := isPrinted
  rw [printing_of_ok isPrinted]
  exact aborts_failure _ _ _

/-- Either the command succeeds, or nothing is left behind but its messages. -/
def Careful (exit : Exit) : Prop := exit.code ≠ 0 → Untouched exit

theorem careful_failure (messages message : String) (causes : List String) :
    Careful (failure messages message causes) := fun _ => ⟨rfl, rfl⟩

theorem careful_deliver (output messages : String) (compiled : Compiled) :
    Careful (deliver supplies output messages compiled) := by
  intro fails
  unfold deliver at fails ⊢
  simp only at fails ⊢
  split at fails
  case h_1 => exact ⟨rfl, rfl⟩
  case h_6 =>
    split at fails
    case isTrue => exact absurd rfl fails
    case isFalse full =>
      rw [if_neg full]
      exact ⟨rfl, rfl⟩
  all_goals exact absurd rfl fails

theorem careful_printing {goOn : String → Exit} (careful : ∀ messages, Careful (goOn messages))
    (before : String) (messages : Except String String) :
    Careful (printing before messages goOn) := by
  cases messages with
  | error printed => exact fun _ => ⟨rfl, rfl⟩
  | ok printed => exact careful _

theorem careful_compileWith (p : Pipeline) (plan : Plan) (supplies : Supplies)
    (invocation : Invocation) (text : String) :
    Careful (compileWith p plan supplies invocation text) := by
  simp only [compileWith]
  cases (p.compileUnder plan (programName invocation.input) text).result with
  | ok compiled => exact careful_printing (fun messages => careful_deliver _ messages compiled) _ _
  | error e =>
    cases e with
    | lex | parse => exact careful_printing (fun messages => careful_failure messages _ _) _ _
    | brokenPass | executor => exact careful_failure _ _ _

/-- Whatever goes wrong with an invocation, it does so before anything is written. -/
theorem careful_invokeUnder (plans : Pipeline → Plan) (supplies : Supplies)
    (invocation : Invocation) : Careful (invokeUnder plans supplies invocation) := by
  unfold invokeUnder
  cases loadConfig supplies invocation.config? with
  | error causes => exact careful_failure _ _ _
  | ok config =>
    cases loadProgram supplies invocation.input with
    | error e => exact careful_failure _ _ _
    | ok text =>
      simp only [compileUnder]
      cases Pipeline.ofConfig? (settingsOf invocation config) with
      | none => exact fun _ => ⟨rfl, rfl⟩
      | some p => exact careful_compileWith p (plans p) supplies invocation text

/-- What compiles was in order. -/
theorem accepts_of_ok {plan : Plan} {name : String} {compiled : Compiled}
    (configured : Configures supplies invocation.config? config) (reads : Reads supplies text)
    (succeeds : ((Pipeline.ofConfig (settingsOf invocation config)).compileUnder plan name
      text).result = .ok compiled) :
    Accepts supplies invocation config text := by
  obtain ⟨letThrough, parses, -⟩ := Pipeline.program_of_ok succeeds
  refine ⟨configured, reads, fun strict => ?_, parses⟩
  rcases letThrough with nothing | lenient
  · exact nothing
  · exact absurd strict (Bool.eq_false_iff.mp lenient)

/-- A program that is in order compiles, to what is written for it. -/
theorem Accepts.compiles (accepts : Accepts supplies invocation config text) {plan : Plan}
    (starts : (Pipeline.ofConfig (settingsOf invocation config)).PoolStarts plan) (name : String) :
    let settings := settingsOf invocation config
    ∃ compiled, ((Pipeline.ofConfig settings).compileUnder plan name text).result = .ok compiled ∧
      compiled.warnings = (Source.ofText name text).tokenize.warnings ∧
      Record.emit compiled.records = emission settings.effectiveOptions.skipOptimize text := by
  intro settings
  have letThrough : (Pipeline.ofConfig settings).LetsThrough (Source.ofText name text).tokenize := by
    by_cases strict : settings.effectiveOptions.strictLex = true
    · exact .inl (accepts.clean strict)
    · exact .inr (Bool.eq_false_iff.mpr strict)
  have ends : (Pipeline.ofConfig settings).Ends plan _ _ :=
    .done letThrough accepts.parses starts (Pipeline.optimized?_ofConfig _ _)
  -- The name of a source has no part in its tokens.
  exact ⟨_, ends.compileUnder_eq, rfl, rfl⟩

/-! ## Invocations -/

theorem Configures.unique {path? : Option String} {other : Config}
    (one : Configures supplies path? config) (two : Configures supplies path? other) :
    other = config := by
  rw [← loadConfig_eq_ok_iff] at one two
  rw [one] at two
  exact (Except.ok.inj two).symm

theorem Reads.unique {other : String} (one : Reads supplies text) (two : Reads supplies other) :
    other = text := by
  unfold Reads at one two
  rw [← textOf_eq_ok_iff] at one two
  rw [one] at two
  exact (Except.ok.inj two).symm

/-- There is no more than one configuration and one text to look at. -/
theorem orderly_of_loaded (configured : Configures supplies invocation.config? config)
    (reads : Reads supplies text)
    (listed : config.pipeline.deployNodes ≤ Collaborators.nodeLimit)
    (settable : ∀ span ∈ blamed (settingsOf invocation config).effectiveOptions.strictLex text,
      Diagnostics.Settable span)
    (starts : let p := Pipeline.ofConfig (settingsOf invocation config); p.PoolStarts (plans p)) :
    Orderly plans supplies invocation := by
  constructor
  · intro other isConfig
    rw [configured.unique isConfig]
    exact listed
  · intro other otherText isConfig isText
    rw [configured.unique isConfig, reads.unique isText]
    exact settable
  · intro other isConfig
    rw [configured.unique isConfig]
    exact starts

theorem Orderly.invokeUnder_eq (orderly : Orderly plans supplies invocation)
    (configured : Configures supplies invocation.config? config) (reads : Reads supplies text) :
    let p := Pipeline.ofConfig (settingsOf invocation config)
    invokeUnder plans supplies invocation = compileWith p (plans p) supplies invocation text := by
  have loaded := loadConfig_eq_ok_iff.mpr configured
  have read : loadProgram supplies invocation.input = .ok text := loadProgram_eq_ok_iff.mpr reads
  have listed : (settingsOf invocation config).pipeline.deployNodes ≤ Collaborators.nodeLimit :=
    orderly.listed config configured
  simp only [invokeUnder, loaded, read, compileUnder, Pipeline.ofConfig?_of_le listed]

theorem invokeUnder_aborts (orderly : Orderly plans supplies invocation)
    (rejected : ¬ ∃ config text, Accepts supplies invocation config text) :
    Aborts (invokeUnder plans supplies invocation) := by
  cases loaded : loadConfig supplies invocation.config? with
  | error causes =>
    simp only [invokeUnder, loaded]
    exact aborts_failure _ _ _
  | ok config =>
    cases read : loadProgram supplies invocation.input with
    | error e =>
      simp only [invokeUnder, loaded, read]
      exact aborts_failure _ _ _
    | ok text =>
      have configured := loadConfig_eq_ok_iff.mp loaded
      have reads := loadProgram_eq_ok_iff.mp read
      rw [orderly.invokeUnder_eq configured reads]
      let p := Pipeline.ofConfig (settingsOf invocation config)
      have settable : ∀ span ∈ blamed p.config.effectiveOptions.strictLex text,
        Diagnostics.Settable span := orderly.settable config text configured reads
      have ends := p.compileUnder_ends (plans p) (programName invocation.input) text
      cases result : (p.compileUnder (plans p) (programName invocation.input) text).result with
      | ok compiled => exact absurd ⟨config, text, accepts_of_ok configured reads result⟩ rejected
      | error e =>
        rw [result] at ends
        simp only [compileWith, result, p]
        cases ends with
        | rejected dropped strict =>
          rw [blamed_of_rejected dropped strict] at settable
          exact aborts_printing (exists_warningsText settable)
        | unparsed letThrough failed =>
          rw [blamed_of_unparsed letThrough.goesOn failed] at settable
          exact aborts_printing (exists_parseErrorText settable)
        | unstarted | broken => exact aborts_failure _ _ _

/-- The warnings are printed, if there are any, and then the records are delivered. -/
theorem compileWith_of_ok {p : Pipeline} {plan : Plan} {compiled : Compiled}
    (succeeds : (p.compileUnder plan (programName invocation.input) text).result = .ok compiled)
    (settable : ∀ span ∈ compiled.warnings.map (·.span), Diagnostics.Settable span) :
    ∃ messages, compileWith p plan supplies invocation text =
      deliver supplies invocation.output messages compiled := by
  simp only [compileWith, succeeds]
  by_cases none : compiled.warnings.isEmpty = true
  · exact ⟨_, printing_of_ok (if_pos none)⟩
  · obtain ⟨printed, isPrinted⟩ := exists_warningsText settable
    exact ⟨_, printing_of_ok ((if_neg none).trans isPrinted)⟩

theorem invokeUnder_delivers (orderly : Orderly plans supplies invocation)
    (accepts : Accepts supplies invocation config text) :
    let settings := settingsOf invocation config
    let p := Pipeline.ofConfig settings
    ∃ messages compiled,
      (p.compileUnder (plans p) (programName invocation.input) text).result = .ok compiled ∧
      Record.emit compiled.records = emission settings.effectiveOptions.skipOptimize text ∧
      invokeUnder plans supplies invocation =
        deliver supplies invocation.output messages compiled := by
  intro settings p
  have settable := orderly.settable config text accepts.configured accepts.reads
  rw [blamed_of_parsed accepts.parses] at settable
  obtain ⟨compiled, succeeds, warnings, emits⟩ :=
    accepts.compiles (orderly.starts config accepts.configured) (programName invocation.input)
  have settable : ∀ span ∈ compiled.warnings.map (·.span), Diagnostics.Settable span := by
    rw [warnings]
    exact settable
  obtain ⟨messages, delivers⟩ := compileWith_of_ok succeeds settable
  refine ⟨messages, compiled, succeeds, emits, ?_⟩
  rw [orderly.invokeUnder_eq accepts.configured accepts.reads]
  exact delivers

/-! ## Delivery -/

/-- The place takes a text that is written to it. A place without room takes the empty one. -/
def Takes (emitted : String) : Sink → Prop
  | .failing _ => emitted = ""
  | .file | .stdout | .stderr | .nowhere => True

/-- A text has been written at a path, to the place that the path stands for, and to no other. -/
def Written (tree : FileTree) (path emitted : String) (done : Exit × FileTree) : Sink → Prop
  | .file => done.1.stdout = "" ∧ done.2 = tree.write path emitted.toUTF8 ∧
      done.2.origin path = .ok (.bytes emitted.toUTF8)
  | .stdout => done.1.stdout = emitted ∧ done.2 = tree
  | .stderr => done.1.stdout = "" ∧ done.2 = tree ∧
      ∃ before, done.1.messages = before ++ emitted
  | .nowhere | .failing _ => done.1.stdout = "" ∧ done.2 = tree

variable {output messages : String} {compiled : Compiled}

theorem deliver_of_error {e : FileError} (closed : supplies.output = .error e) :
    Aborts (deliver supplies output messages compiled) := by
  simp only [deliver, closed]
  exact aborts_failure _ _ _

theorem deliver_of_failing {e : FileError} (full : supplies.output = .ok (.failing e))
    (some_ : Record.emit compiled.records ≠ "") :
    Aborts (deliver supplies output messages compiled) := by
  have notEmpty : ¬ (Record.emit compiled.records).isEmpty = true := by
    rw [String.isEmpty_iff]
    exact some_
  simp only [deliver, full, if_neg notEmpty]
  exact aborts_failure _ _ _

/-- What a run leaves when the records have been written. -/
theorem deliver_written {tree : FileTree} {sink : Sink} (opened : supplies.output = .ok sink)
    (takes : Takes (Record.emit compiled.records) sink)
    (isFile : sink = .file → tree.sink output = .ok .file) :
    let exit := deliver supplies output messages compiled
    exit.code = 0 ∧ Written tree output (Record.emit compiled.records)
      (exit, (exit.written?.map fun content => tree.write output content.toUTF8).getD tree) sink := by
  cases sink with
  | file =>
    rw [deliver, opened]
    exact ⟨rfl, rfl, rfl, FileTree.origin_write (isFile rfl)⟩
  | stdout =>
    rw [deliver, opened]
    exact ⟨rfl, rfl, rfl⟩
  | stderr =>
    rw [deliver, opened]
    exact ⟨rfl, rfl, rfl, messages, rfl⟩
  | nowhere =>
    rw [deliver, opened]
    exact ⟨rfl, rfl, rfl⟩
  | failing e =>
    -- There is nothing to write, so the lack of room is never met.
    have nothing : (Record.emit compiled.records).isEmpty = true := String.isEmpty_iff.mpr takes
    rw [deliver, opened]
    simp only [if_pos nothing]
    exact ⟨trivial, rfl, rfl⟩

/-! ## Runs -/

section Runs

variable {tree : FileTree} {stdin : ByteArray} {args : List String}

theorem runUnder_eq {exit : Exit} (demanded : CommandLine.demand args = .compile invocation)
    (ends : invokeUnder plans (.ofTree tree stdin invocation) invocation = exit) :
    runUnder plans tree stdin args =
      (exit, (exit.written?.map fun content =>
        tree.write invocation.output content.toUTF8).getD tree) := by
  simp only [runUnder, demanded, ends]
  cases exit.written? with
  | none => rfl
  | some content => rfl

theorem Untouched.runUnder (demanded : CommandLine.demand args = .compile invocation)
    (untouched : Untouched (invokeUnder plans (.ofTree tree stdin invocation) invocation)) :
    let done := runUnder plans tree stdin args
    done.1.stdout = "" ∧ done.2 = tree := by
  obtain ⟨stdout, unwritten⟩ := untouched
  rw [runUnder_eq demanded rfl, unwritten]
  exact ⟨stdout, rfl⟩

theorem Aborts.runUnder (demanded : CommandLine.demand args = .compile invocation)
    (aborts : Aborts (invokeUnder plans (.ofTree tree stdin invocation) invocation)) :
    let done := runUnder plans tree stdin args
    done.1.code = 1 ∧ done.1.stdout = "" ∧ done.2 = tree := by
  refine ⟨?_, aborts.2.runUnder demanded⟩
  rw [runUnder_eq demanded rfl]
  exact aborts.1

/-- Only a path is written as a file. -/
theorem sink_of_file (isFile : (Supplies.ofTree tree stdin invocation).output = .ok .file) :
    tree.sink invocation.output = .ok .file := by
  unfold Supplies.ofTree at isFile
  simp only at isFile
  split at isFile
  · cases isFile
  · exact isFile

end Runs

/-- A run that compiles a program, whatever its files and its standard input hold and however its
jobs go. If it does not exit with code 0, nothing is on its output and no file is touched. Let the
nodes be listed, the messages set and the threads started. If all is not in order, it exits with
code 1. If all is in order, what is written is told by the text of the program and by whether the
pass is run, and it is what the records come to. Where the place for it cannot be opened or has no
room, the run ends as before; where it takes what is written, the run exits with code 0 and it is
all there. -/
theorem run_writes_emission (plans : Pipeline → Plan) (tree : FileTree) (stdin : ByteArray)
    {args : List String} (demanded : CommandLine.demand args = .compile invocation) :
    let supplies := Supplies.ofTree tree stdin invocation
    let done := runUnder plans tree stdin args
    (done.1.code ≠ 0 → done.1.stdout = "" ∧ done.2 = tree) ∧
    (Orderly plans supplies invocation →
      ((¬ ∃ config text, Accepts supplies invocation config text) →
        done.1.code = 1 ∧ done.1.stdout = "" ∧ done.2 = tree) ∧
      ∀ config text, Accepts supplies invocation config text →
        let settings := settingsOf invocation config
        let p := Pipeline.ofConfig settings
        let emitted := emission settings.effectiveOptions.skipOptimize text
        (∃ compiled, (p.compileUnder (plans p) (programName invocation.input) text).result =
          .ok compiled ∧ Record.emit compiled.records = emitted) ∧
        (∀ e, supplies.output = .error e ∨ supplies.output = .ok (.failing e) ∧ emitted ≠ "" →
          done.1.code = 1 ∧ done.1.stdout = "" ∧ done.2 = tree) ∧
        ∀ sink, supplies.output = .ok sink → Takes emitted sink →
          done.1.code = 0 ∧ Written tree invocation.output emitted done sink) := by
  intro supplies done
  constructor
  · intro fails
    have same : done = _ := runUnder_eq demanded rfl
    rw [same] at fails
    exact (careful_invokeUnder plans supplies invocation fails).runUnder demanded
  · intro orderly
    refine ⟨fun rejected => (invokeUnder_aborts orderly rejected).runUnder demanded, ?_⟩
    intro config text accepts settings p emitted
    obtain ⟨messages, compiled, succeeds, emits, delivers⟩ := invokeUnder_delivers orderly accepts
    have emits : Record.emit compiled.records = emitted := emits
    refine ⟨⟨compiled, succeeds, emits⟩, fun e refused => ?_, fun sink opened takes => ?_⟩
    · refine Aborts.runUnder demanded ?_
      rw [delivers]
      rw [← emits] at refused
      rcases refused with closed | ⟨full, some_⟩
      · exact deliver_of_error closed
      · exact deliver_of_failing full some_
    · have isFile : sink = .file → tree.sink invocation.output = .ok .file := by
        rintro rfl
        exact sink_of_file opened
      show (runUnder plans tree stdin args).1.code = 0 ∧
        Written tree invocation.output emitted (runUnder plans tree stdin args) sink
      rw [← emits] at takes ⊢
      rw [runUnder_eq demanded delivers]
      exact deliver_written opened takes isFile

theorem eq_ok_of_toOption {ε α : Type} {x : Except ε α} {a : α} (found : x.toOption = some a) :
    x = .ok a := by
  cases x with
  | error e => cases found
  | ok b => exact congrArg Except.ok (Option.some.inj found)

/-- A task that nobody handles, a character that is dropped, and a request for optimization. -/
def busyText : String := "sync nothing # let x : int = 1 ; optimize"

/-- Asks for a deployment. -/
def busyConfig : String := "[pipeline]\ndeploy = \"d\"\n"

/-- Holds the program and its configuration. -/
def busyTree : FileTree := .ofFolder [("a", busyText.toUTF8), ("c", busyConfig.toUTF8)]

theorem busy_writes_emission :
    let args := ["-v", "-c", "c", "-o", "out", "a"]
    let done := run busyTree .empty args
    CommandLine.demand args =
        .compile { config? := some "c", output := "out", verbosity := 1, input := "a" } ∧
      done.1.code = 0 ∧
      done.2.origin "out" = .ok (.bytes (emission false busyText).toUTF8) ∧
      emission false busyText =
        "Sync Task Scheduled: Optimized: Synchronicity task for nothing added to queue\n" ++
          "Declare Variable: Optimized: Declared x of type int with value 1\n" := by
  intro args done
  let invocation : Invocation :=
    { config? := some "c", output := "out", verbosity := 1, input := "a" }
  let supplies := Supplies.ofTree busyTree .empty invocation
  have demanded : CommandLine.demand args = .compile invocation := by decide +kernel
  have configRead : supplies.config.toOption = some busyConfig.toUTF8 := by decide +kernel
  have programRead : supplies.program.toOption = some busyText.toUTF8 := by decide +kernel
  have opened : supplies.output.toOption = some .file := by decide +kernel
  -- The settings of the file say nothing of the pass, of dropped characters and of nodes.
  have settings : (Config.ofToml busyConfig).toOption.map (fun config =>
      let options := (settingsOf invocation config).effectiveOptions
      (options.strictLex, options.skipOptimize, config.pipeline.deployNodes)) =
        some (false, false, 3) := by decide +kernel
  obtain ⟨config, isConfig, options⟩ := Option.map_eq_some_iff.mp settings
  simp only [Prod.mk.injEq] at options
  obtain ⟨lenient, optimizes, nodes⟩ := options
  have accepts : Accepts supplies invocation config busyText :=
    { configured := ⟨busyConfig.toUTF8, busyConfig, eq_ok_of_toOption configRead,
        by decide +kernel, eq_ok_of_toOption isConfig⟩
      reads := ⟨busyText.toUTF8, eq_ok_of_toOption programRead, by decide +kernel⟩
      clean := fun strict => absurd strict (Bool.eq_false_iff.mp lenient)
      parses := by decide +kernel }
  have spans : blamed false busyText = [⟨⟨1, 14⟩, ⟨1, 15⟩⟩] := by decide +kernel
  have orderly : Orderly Pipeline.plan supplies invocation := by
    refine orderly_of_loaded accepts.configured accepts.reads (by rw [nodes]; decide) ?_
      (Pipeline.poolStarts_plan _)
    rw [lenient, spans, List.forall_mem_singleton]
    exact ⟨by decide, fun _ => by decide⟩
  obtain ⟨-, goes⟩ := run_writes_emission Pipeline.plan busyTree .empty demanded
  obtain ⟨-, succeeds⟩ := goes orderly
  obtain ⟨-, -, writes⟩ := succeeds config busyText accepts
  obtain ⟨code, -, -, found⟩ := writes .file (eq_ok_of_toOption opened) trivial
  rw [optimizes] at found
  exact ⟨demanded, code, found, by decide +kernel⟩

/-- A place that can be opened may have no room, and then the run does not exit with code 0, though
nothing else goes wrong. -/
theorem full_device_fails :
    let tree := FileTree.ofFolder [("a", "let x : int = 1 ;".toUTF8)]
    let args := ["-o", "/dev/full", "a"]
    let invocation : Invocation := { output := "/dev/full", input := "a" }
    let supplies := Supplies.ofTree tree .empty invocation
    CommandLine.demand args = .compile invocation ∧
      Orderly Pipeline.plan supplies invocation ∧
      Accepts supplies invocation {} "let x : int = 1 ;" ∧
      supplies.output = .ok (.failing .noSpace) ∧ (run tree .empty args).1.code = 1 := by
  intro tree args invocation supplies
  have programRead : supplies.program.toOption = some "let x : int = 1 ;".toUTF8 := by
    decide +kernel
  have opened : supplies.output.toOption = some (.failing .noSpace) := by decide +kernel
  have accepts : Accepts supplies invocation {} "let x : int = 1 ;" :=
    { configured := rfl
      reads := ⟨_, eq_ok_of_toOption programRead, by decide +kernel⟩
      clean := fun _ => by decide +kernel
      parses := by decide +kernel }
  have spans : blamed false "let x : int = 1 ;" = [] := by decide +kernel
  have orderly : Orderly Pipeline.plan supplies invocation := by
    refine orderly_of_loaded accepts.configured accepts.reads (by decide) ?_
      (Pipeline.poolStarts_plan _)
    show ∀ span ∈ blamed false "let x : int = 1 ;", Diagnostics.Settable span
    rw [spans]
    exact List.forall_mem_nil _
  exact ⟨by decide +kernel, orderly, accepts, eq_ok_of_toOption opened, by decide +kernel⟩

end Command

end TaskScript
