import TaskScript.CommandLine
import TaskScript.FileTree
import TaskScript.Pipeline

/-!
# The command

The program as a function: from the arguments, the files that can be read and the standard input to
an exit code, what is printed and what is written. The output is opened only after the program has
compiled, so a program that does not compile leaves no trace but its messages.

As for a pipeline, `Command.runUnder` takes any plan for the jobs and `Command.run` the one that the
settings lead to.

A command crashes where its nodes cannot be listed and where messages break off. What it has printed
by then stays. The notice that a crash leaves on the standard error names a thread of the system and
is not part of the model.
-/

namespace TaskScript

/-- What the system gives to an invocation: the result of reading each file that it names, and where
its output goes. -/
structure Supplies where
  config : Except FileError ByteArray
  program : Except FileError ByteArray
  output : Except FileError Sink

namespace Supplies

/-- What a tree of files and the standard input give to an invocation. The configuration is read
before the program. -/
def ofTree (tree : FileTree) (stdin : ByteArray) (invocation : Invocation) : Supplies :=
  let (config, left) := match invocation.config? with
    | none => (.ok .empty, stdin)
    | some path => tree.read path stdin
  { config
    program := if invocation.input = "-" then .ok left else (tree.read invocation.input left).1
    output := if invocation.output = "-" then .ok .stdout else tree.sink invocation.output }

end Supplies

/-- What a command comes to. -/
structure Exit where
  code : UInt32
  stdout : String := ""
  /-- What the standard error shows up to the moment when the output is written. -/
  messages : String := ""
  /-- What it shows after that. -/
  closing : String := ""
  /-- What the output file holds, if it is written. -/
  written? : Option String := none

/-- All that the standard error shows. -/
def Exit.stderr (exit : Exit) : String := exit.messages ++ exit.closing

namespace Command

/-- The line that tells the version. -/
def versionLine : String := "HTS compiler 0.1.0\n"

/-- How to use the command. -/
def usage : String :=
  "USAGE:\n    htsc [OPTIONS] <FILE>\n\nOPTIONS:\n"
    ++ "    -c, --config <CONFIG>    TOML configuration file\n"
    ++ "    -o <OUTPUT>              Output file ('-' for stdout)\n"
    ++ "        --no-optimize        Skip the optimization pass\n"
    ++ "        --no-jobs            Do not run scheduled tasks\n"
    ++ "        --strict             Treat dropped characters as errors\n"
    ++ "    -v                       Increase log verbosity\n"
    ++ "    -h, --help               Print help information\n"
    ++ "    -V, --version            Print version information\n"

/-! ## Messages -/

/-- Puts blanks after each line feed of a text. -/
def indent (width : Nat) (text : String) : String :=
  String.ofList (text.toList.flatMap fun c =>
    if c = '\n' then '\n' :: List.replicate width ' ' else [c])

/-- The causes of an error, the nearest first. Several are numbered. -/
def causesText : List String → String
  | [] => ""
  | [cause] => "\nCaused by:\n    " ++ indent 4 cause ++ "\n"
  | causes =>
    "\nCaused by:\n" ++ String.join (causes.zipIdx.map fun (cause, number) =>
      Diagnostics.padLeft 5 number ++ ": " ++ indent 7 cause ++ "\n")

/-- An error as the command ends with it. -/
def errorText (message : String) (causes : List String) : String :=
  "Error: " ++ message ++ "\n" ++ causesText causes

/-- The end of a command that fails after printing some messages. -/
def failure (messages : String) (message : String) (causes : List String) : Exit :=
  { code := 1, messages, closing := errorText message causes }

/-- The end of a command that crashes after printing some messages. -/
def crash (messages : String) : Exit := { code := 101, messages }

/-- Goes on when messages have been printed after others, or crashes where they break off. -/
def printing (before : String) (messages : Except String String) (goOn : String → Exit) : Exit :=
  match messages with
  | .error printed => crash (before ++ printed)
  | .ok printed => goOn (before ++ printed)

/-- The least level that is shown. -/
def threshold : Nat → Level
  | 0 => .warn
  | 1 => .info
  | _ => .debug

/-- An entry of the log as it is shown. -/
def logLine (entry : LogEntry) : String :=
  let level := entry.level.text
  "[" ++ level ++ Diagnostics.spaces (5 - level.length) ++ " " ++ entry.topic.text ++ "] "
    ++ indent 4 entry.message ++ "\n"

/-- The entries that are shown. -/
def logText (verbosity : Nat) (log : List LogEntry) : String :=
  String.join ((log.filter fun entry => (threshold verbosity).rank ≤ entry.level.rank).map logLine)

/-! ## Reading -/

/-- The text that bytes stand for. -/
def decode (bytes : ByteArray) : Except String String :=
  match String.fromUTF8? bytes with
  | some text => .ok text
  | none => .error "stream did not contain valid UTF-8"

/-- The text of a file that has been read, or why there is none. -/
def textOf : Except FileError ByteArray → Except String String
  | .error error => .error error.message
  | .ok bytes => decode bytes

/-- The configuration, or the causes why there is none. -/
def loadConfig (supplies : Supplies) : Option String → Except (List String) Config
  | none => .ok {}
  | some path =>
    match textOf supplies.config with
    | .error cause => .error ["Failed to read " ++ path, cause]
    | .ok text =>
      match Config.ofToml text with
      | .error error => .error [error.message]
      | .ok config => .ok config

/-- The name of the program in messages. -/
def programName (input : String) : String := if input = "-" then "<stdin>" else input

/-- The text of the program, or the error and its cause. -/
def loadProgram (supplies : Supplies) (input : String) : Except (String × String) String :=
  match textOf supplies.program with
  | .ok text => .ok text
  | .error cause =>
    .error (if input = "-" then "Failed to read from stdin"
      else "Failed to read source file: " ++ input, cause)

/-! ## Compiling -/

/-- The outcomes of jobs, and the counts if not all completed. -/
def reportText (report : Report) : String :=
  String.join (report.outcomes.map fun outcome => outcome.text ++ "\n")
    ++ if report.isSuccess then ""
      else Numeral.decimal report.failed ++ " job(s) failed, "
        ++ Numeral.decimal report.cancelled ++ " cancelled\n"

/-- The warnings of a source under a kind. -/
def warningsText (source : Source) (kind : String) (warnings : List (Located LexWarning)) :
    Except String String :=
  let messages := warnings.map fun warning => ⟨warning.val.message, warning.span⟩
  Diagnostics.text { source, kind, messages }

/-- The message of a parse error. -/
def parseErrorText (source : Source) (error : Located ParseError) : Except String String :=
  Diagnostics.text { source, messages := [⟨error.val.message, error.span⟩] }

/-- Writes the records and tells the outcomes of jobs, after some messages. -/
def deliver (supplies : Supplies) (output messages : String) (compiled : Compiled) : Exit :=
  let emitted := Record.emit compiled.records
  let done : Exit := { code := 0, messages, closing := reportText compiled.report }
  match supplies.output with
  | .error error => failure messages ("Failed to open for writing: " ++ output) [error.message]
  | .ok .file => { done with written? := some emitted }
  | .ok .stdout => { done with stdout := emitted }
  | .ok .stderr => { done with messages := messages ++ emitted }
  | .ok .nowhere => done
  | .ok (.failing error) =>
    if emitted.isEmpty then done
    else failure messages ("Failed to emit to file: " ++ output) [error.message]

/-- The settings of an invocation. Its options are added to those of its configuration. -/
def settingsOf (invocation : Invocation) (config : Config) : Config :=
  config.withOptions invocation.options

/-- Compiles a program that has been read, with a pipeline. -/
def compileWith (pipeline : Pipeline) (plan : Plan) (supplies : Supplies)
    (invocation : Invocation) (text : String) : Exit :=
  let name := programName invocation.input
  let compilation := pipeline.compileUnder plan name text
  let log := logText invocation.verbosity compilation.log
  let source := Source.ofText name text
  let aborting (messages : String) := failure messages ("Compilation of " ++ name ++ " aborted") []
  match compilation.result with
  | .ok compiled =>
    let warnings :=
      if compiled.warnings.isEmpty then .ok ""
      else warningsText source "warning" compiled.warnings
    printing log warnings fun messages => deliver supplies invocation.output messages compiled
  | .error (.parse error) => printing log (parseErrorText source error) aborting
  | .error (.lex warnings) => printing log (warningsText source "error" warnings) aborting
  | .error error => failure log "Compilation failed" (error.causes name)

/-- Compiles a program that has been read, if there is a pipeline for it. -/
def compileUnder (plans : Pipeline → Plan) (supplies : Supplies) (invocation : Invocation)
    (config : Config) (text : String) : Exit :=
  match Pipeline.ofConfig? (settingsOf invocation config) with
  | none => crash ""
  | some pipeline => compileWith pipeline (plans pipeline) supplies invocation text

/-- Carries out an invocation under plans for its jobs. -/
def invokeUnder (plans : Pipeline → Plan) (supplies : Supplies) (invocation : Invocation) : Exit :=
  match loadConfig supplies invocation.config? with
  | .error causes =>
    failure "" ("Failed to load configuration: " ++ invocation.config?.getD "") causes
  | .ok config =>
    match loadProgram supplies invocation.input with
    | .error (message, cause) => failure "" message [cause]
    | .ok text => compileUnder plans supplies invocation config text

/-- Carries out an invocation. -/
def invoke (supplies : Supplies) (invocation : Invocation) : Exit :=
  invokeUnder Pipeline.plan supplies invocation

/-- Tells the version. -/
def version : Exit := { code := 0, stdout := versionLine }

/-- Tells how to use the command. -/
def help : Exit := { code := 0, stdout := usage }

/-- Refuses arguments that make no sense. -/
def misuse : Exit := { code := 2, messages := usage }

/-- Carries out the command in a tree of files, under plans for its jobs. Gives the tree that it
leaves as well. -/
def runUnder (plans : Pipeline → Plan) (tree : FileTree) (stdin : ByteArray)
    (args : List String) : Exit × FileTree :=
  match CommandLine.demand args with
  | .compile invocation =>
    let exit := invokeUnder plans (.ofTree tree stdin invocation) invocation
    match exit.written? with
    | none => (exit, tree)
    | some content => (exit, tree.write invocation.output content.toUTF8)
  | .version => (version, tree)
  | .help => (help, tree)
  | .misuse => (misuse, tree)

/-- Carries out the command in a tree of files. -/
def run (tree : FileTree) (stdin : ByteArray) (args : List String) : Exit × FileTree :=
  runUnder Pipeline.plan tree stdin args

end Command

end TaskScript
