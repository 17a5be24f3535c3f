import TaskScript.Config

/-!
# The command line

What the arguments ask for. Options may stand anywhere before a lone `--`, short ones may share a
dash, and the value of an option follows it in the same argument, after an equals sign or not, or in
the next argument. An argument that looks like an option is never taken for a value.

Asking for the version or for help takes effect where it is met. So does an argument that makes no
sense. A missing value, an option given twice and a missing file are told only at the end.
-/

namespace TaskScript

/-- A compilation that the arguments ask for. -/
structure Invocation where
  config? : Option String := none
  output : String := "-"
  options : Options := {}
  verbosity : Nat := 0
  input : String
deriving DecidableEq

/-- What the arguments ask for. -/
inductive Demand where
  | compile (invocation : Invocation)
  | version
  | help
  | misuse
deriving DecidableEq

namespace CommandLine

/-- An option that takes a value. -/
inductive Valued where
  | config
  | output
deriving DecidableEq

/-- An option that takes none. -/
inductive Flag where
  | noOptimize
  | noJobs
  | strict
deriving DecidableEq

/-- What has been read so far: each use of an option, with its value unless it is missing. -/
structure Seen where
  values : List (Valued × Option String) := []
  flags : List Flag := []
  verbosity : Nat := 0
  input? : Option String := none
  /-- The option that the next argument may be the value of. -/
  open? : Option Valued := none
  /-- Has a lone `--` ended the options? -/
  ended : Bool := false
deriving DecidableEq

/-- What an argument leads to: more to read, or a demand that is met at once. -/
abbrev Next := Except Demand Seen

namespace Seen

/-- Leaves the open option without its value. -/
def closeOption (s : Seen) : Seen :=
  match s.open? with
  | none => s
  | some option => { s with values := s.values ++ [(option, none)], open? := none }

/-- Gives an option its value. -/
def give (s : Seen) (option : Valued) (value : String) : Seen :=
  { s with values := s.values ++ [(option, some value)], open? := none }

/-- Takes an argument that is not an option. -/
def plain (s : Seen) (arg : String) : Next :=
  match s.input? with
  | some _ => .error .misuse
  | none => .ok { s with input? := some arg }

/-- The uses of an option. -/
def uses (s : Seen) (option : Valued) : List (Option String) :=
  (s.values.filter (·.1 = option)).map (·.2)

end Seen

/-- The text after an equals sign, or all of it. -/
def attachedValue : List Char → String
  | '=' :: value => String.ofList value
  | value => String.ofList value

/-- Reads options that share a dash. -/
def shortOptions (s : Seen) : List Char → Next
  | [] => .ok s
  | 'v' :: rest => shortOptions { s with verbosity := s.verbosity + 1 } rest
  | 'h' :: _ => .error .help
  | 'V' :: _ => .error .version
  | 'c' :: rest => valued .config rest
  | 'o' :: rest => valued .output rest
  | _ :: _ => .error .misuse
where
  /-- The rest of the argument is the value, or else the next argument may be. -/
  valued (option : Valued) (rest : List Char) : Next :=
    if rest.isEmpty then .ok { s with open? := some option }
    else .ok (s.give option (attachedValue rest))

/-- Reads an option with a name, from after its dashes on. -/
def longOption (s : Seen) (arg : List Char) : Next :=
  let name := String.ofList (arg.takeWhile (· ≠ '='))
  let value? := match arg.dropWhile (· ≠ '=') with
    | [] => none
    | _ :: value => some (String.ofList value)
  match name, value? with
  | "config", some value => .ok (s.give .config value)
  | "config", none => .ok { s with open? := some .config }
  | "no-optimize", none => .ok { s with flags := s.flags ++ [.noOptimize] }
  | "no-jobs", none => .ok { s with flags := s.flags ++ [.noJobs] }
  | "strict", none => .ok { s with flags := s.flags ++ [.strict] }
  | "version", none => .error .version
  | "help", none => .error .help
  | _, _ => .error .misuse

/-- Reads an argument. -/
def argument (s : Seen) (arg : String) : Next :=
  if s.ended then s.plain arg
  else match arg.toList with
    | ['-', '-'] => .ok { s.closeOption with ended := true }
    | '-' :: '-' :: rest => longOption s.closeOption rest
    | '-' :: c :: rest => shortOptions s.closeOption (c :: rest)
    | _ =>
      match s.open? with
      | some option => .ok (s.give option arg)
      | none => s.plain arg

/-- The one value of an option, or none if it is not used. -/
def single? (uses : List (Option String)) : Option (Option String) :=
  match uses with
  | [] => some none
  | [some value] => some (some value)
  | _ => none

/-- The demand after the last argument. -/
def conclude (s : Seen) : Demand :=
  let s := s.closeOption
  match s.input?, single? (s.uses .config), single? (s.uses .output) with
  | some input, some config?, some output? =>
    if s.flags.Nodup then
      .compile {
        config?
        output := output?.getD "-"
        options := {
          skipOptimize := s.flags.contains .noOptimize
          skipJobs := s.flags.contains .noJobs
          strictLex := s.flags.contains .strict }
        verbosity := s.verbosity
        input }
    else .misuse
  | _, _, _ => .misuse

/-- What the arguments ask for. -/
def demand (args : List String) : Demand :=
  match args.foldlM argument {} with
  | .ok seen => conclude seen
  | .error demand => demand

end CommandLine

end TaskScript
