import TaskScript.Timeline
import TaskScript.Toml.Document

/-!
# Configuration

A configuration is a TOML document with the sections `executor` and `pipeline`. A section is a table
without unknown keys, or an array that gives the fields in their order; what is missing has its
default. Options that come from elsewhere are added to those of the file.
-/

namespace TaskScript

/-- Choices about a compilation that a file cannot make on its own. -/
structure Options where
  skipOptimize : Bool := false
  skipJobs : Bool := false
  strictLex : Bool := false
deriving DecidableEq

namespace Options

/-- The choices of both. -/
def union (a b : Options) : Options where
  skipOptimize := a.skipOptimize || b.skipOptimize
  skipJobs := a.skipJobs || b.skipJobs
  strictLex := a.strictLex || b.strictLex

end Options

/-- How a program is compiled. -/
structure PipelineSettings where
  optimize : Bool := true
  /-- The task that every node is to carry out after the jobs of the program. -/
  deploy? : Option String := none
  deployNodes : Nat := 3
deriving DecidableEq

/-- All settings. -/
structure Config where
  executor : ExecutorSettings := {}
  pipeline : PipelineSettings := {}
  options : Options := {}
deriving DecidableEq

/-- Why there is no configuration. -/
inductive ConfigError where
  | malformed
  | noWorkers
deriving DecidableEq

namespace ConfigError

/-- The text of the error. -/
def message : ConfigError → String
  | malformed => "Invalid configuration"
  | noWorkers => "`executor.workers` must be at least 1"

end ConfigError

namespace Config

open Toml (Value Entries)

/-! ## Reading values -/

/-- A number that is not negative. -/
def natural? : Value → Option Nat
  | .integer i => if 0 ≤ i then some i.toNat else none
  | _ => none

/-- A truth value. -/
def boolean? : Value → Option Bool
  | .boolean b => some b
  | _ => none

/-- A text. -/
def text? : Value → Option String
  | .string text => some text
  | _ => none

/-- The fields of a section, given its keys in order. -/
def fields? (keys : List String) : Value → Option Entries
  | .table _ entries | .inlineTable entries =>
    if entries.all (keys.contains ·.1) then some entries else none
  | .array items => some (keys.zip items)
  | .tables rows => some (keys.zip (rows.map (.table .header)))
  | _ => none

/-- The value of a field, or its default if it is missing. -/
def field {α : Type} (fields : Entries) (key : String) (read? : Value → Option α) (default : α) :
    Option α :=
  match fields.find? key with
  | none => some default
  | some value => read? value

/-- Reads how jobs are run. -/
def executorSettings? (section? : Option Value) : Option ExecutorSettings := do
  let default : ExecutorSettings := {}
  match section? with
  | none => return default
  | some value =>
    let fields ← fields? ["workers", "delay_ms", "timeout_ms"] value
    return {
      workers := ← field fields "workers" natural? default.workers
      delay := ← field fields "delay_ms" natural? default.delay
      timeout? := ← field fields "timeout_ms" (fun v => (natural? v).map some) default.timeout? }

/-- Reads how a program is compiled. -/
def pipelineSettings? (section? : Option Value) : Option PipelineSettings := do
  let default : PipelineSettings := {}
  match section? with
  | none => return default
  | some value =>
    let fields ← fields? ["optimize", "deploy", "deploy_nodes"] value
    return {
      optimize := ← field fields "optimize" boolean? default.optimize
      deploy? := ← field fields "deploy" (fun v => (text? v).map some) default.deploy?
      deployNodes := ← field fields "deploy_nodes" natural? default.deployNodes }

/-- Reads all settings of a document. -/
def ofEntries? (entries : Entries) : Option Config := do
  if !entries.all (["executor", "pipeline"].contains ·.1) then none
  return {
    executor := ← executorSettings? (entries.find? "executor")
    pipeline := ← pipelineSettings? (entries.find? "pipeline") }

/-- Reads a configuration. There must be a worker. -/
def ofToml (text : String) : Except ConfigError Config :=
  match Toml.parse? text >>= ofEntries? with
  | none => .error .malformed
  | some config => if config.executor.workers = 0 then .error .noWorkers else .ok config

/-! ## Options -/

/-- The configuration with more options. -/
def withOptions (config : Config) (options : Options) : Config :=
  { config with options := config.options.union options }

/-- The options in force, with those that follow from the file. -/
def effectiveOptions (config : Config) : Options :=
  config.options.union { skipOptimize := !config.pipeline.optimize }

end Config

end TaskScript
