/-!
# Log entries

What the parts of the program report about their work, as data: the outer layer decides which
entries are shown.
-/

namespace TaskScript

/-- How much an entry matters, the least first. -/
inductive Level where
  | debug
  | info
  | warn
deriving DecidableEq

namespace Level

/-- The name of the level in capitals. -/
def text : Level → String
  | debug => "DEBUG"
  | info => "INFO"
  | warn => "WARN"

/-- The place in the order of weight. -/
def rank : Level → Nat
  | debug => 0
  | info => 1
  | warn => 2

end Level

/-- The part of the program that reports. -/
inductive Topic where
  | lexing
  | parsing
  | optimization
  | generation
  | pipeline
  | scheduling
deriving DecidableEq

namespace Topic

/-- The name under which the part reports. -/
def text : Topic → String
  | lexing => "htsc::lex"
  | parsing => "htsc::parse"
  | optimization => "htsc::optimize"
  | generation => "htsc::codegen"
  | pipeline => "htsc::pipeline"
  | scheduling => "hts_runtime::sched"

end Topic

/-- One reported event. -/
structure LogEntry where
  level : Level
  topic : Topic
  message : String
deriving DecidableEq

namespace LogEntry

/-- Written on one line: level, topic and message. -/
def text (entry : LogEntry) : String :=
  entry.level.text ++ " " ++ entry.topic.text ++ ": " ++ entry.message

end LogEntry

end TaskScript
