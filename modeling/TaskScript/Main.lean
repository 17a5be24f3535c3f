import TaskScript.Command

/-!
# The program

Reads the files that the arguments name, carries out the command and prints what it comes to.
-/

namespace TaskScript

/-- The number of a failure of the system, which may come with either sign. -/
def errorNumber (code : UInt32) : UInt32 := min code (-code)

/-- What a failure of the system means for a file. -/
def fileError (error : IO.Error) : FileError :=
  let other := .other (toString error)
  match error with
  | .noFileOrDirectory .. => .missing
  | .permissionDenied .. => .denied
  | .noSuchThing _ code _ => if errorNumber code = 6 then .noDevice else other
  | .inappropriateType _ code _ => if errorNumber code = 20 then .notFolder else .isFolder
  | .resourceExhausted _ code _ => if errorNumber code = 28 then .noSpace else other
  | .invalidArgument _ code _ => if errorNumber code = 36 then .nameTooLong else other
  | _ => other

/-- The result of an action on a file, or its failure. -/
def attempt {α : Type} (action : IO α) : IO (Except FileError α) := do
  try
    return .ok (← action)
  catch error => return .error (fileError error)

/-- The content of the standard input. -/
partial def readStdin : IO ByteArray := do
  let stdin ← IO.getStdin
  let rec loop (read : ByteArray) : IO ByteArray := do
    let chunk ← stdin.read 65536
    if chunk.isEmpty then return read else loop (read ++ chunk)
  loop ByteArray.empty

/-- What the system gives to an invocation. The output is not opened yet. -/
def supplies (invocation : Invocation) : IO Supplies := do
  let config ← match invocation.config? with
    | none => pure (.ok ByteArray.empty)
    | some path => attempt (IO.FS.readBinFile path)
  let program ← attempt
    (if invocation.input = "-" then readStdin else IO.FS.readBinFile invocation.input)
  return { config, program, output := .ok (if invocation.output = "-" then .stdout else .file) }

/-- Prints what a command comes to that writes no file. -/
def present (exit : Exit) : IO UInt32 := do
  (← IO.getStderr).putStr exit.stderr
  (← IO.getStdout).putStr exit.stdout
  return exit.code

/-- Prints what an invocation comes to, and writes its output in between. An output that cannot be
opened or written is told like any other failure. -/
def deliverTo (invocation : Invocation) (given : Supplies) (content : String) (exit : Exit) :
    IO UInt32 := do
  let failing (output : Except FileError Sink) : Exit :=
    Command.invoke { given with output } invocation
  match ← attempt (IO.FS.Handle.mk invocation.output .write) with
  | .error error => present (failing (.error error))
  | .ok handle =>
    let stderr ← IO.getStderr
    stderr.putStr exit.messages
    let exit ← match ← attempt (do handle.putStr content; handle.flush) with
      | .ok () => pure exit
      | .error error => pure (failing (.ok (.failing error)))
    stderr.putStr exit.closing
    return exit.code

/-- Carries out an invocation. -/
def carryOut (invocation : Invocation) : IO UInt32 := do
  let given ← supplies invocation
  let exit := Command.invoke given invocation
  match exit.written? with
  | none => present exit
  | some content => deliverTo invocation given content exit

end TaskScript

open TaskScript in
/-- Compiles the program that the arguments name. -/
def main (args : List String) : IO UInt32 :=
  match CommandLine.demand args with
  | .compile invocation => carryOut invocation
  | .version => present Command.version
  | .help => present Command.help
  | .misuse => present Command.misuse
