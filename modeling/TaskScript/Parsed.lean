import TaskScript.Construct
import TaskScript.Log

/-!
# Parsed programs

Tokens are read from left to right. A token that begins a construct takes the tokens of its width
with it, and any other token is passed over. The first construct that cannot be read ends the parse,
and what was done before it stays done, so the result of a parse holds what was read together with
the error, if any.
-/

namespace TaskScript

/-- The result of a parse: what was read, the state that it left, and the error that ended it. -/
structure Parsed where
  nodes : Program := []
  jobs : List Job := []
  state : State
  error? : Option (Located ParseError) := none

namespace Parsed

/-- The result with one more construct read before it. -/
def after (effect : Effect) (span : Span) (later : Parsed) : Parsed :=
  { later with
    nodes := { statement := effect.statement, span } :: later.nodes
    jobs := effect.job?.toList ++ later.jobs }

end Parsed

/-- Reads tokens from a state on. -/
def State.parse (s : State) : List (Located Token) → Parsed
  | [] => { state := s }
  | lead :: rest =>
    match Construct.begin? lead.val with
    | none => s.parse rest
    | some (keyword, width) =>
      let operands := rest.take width
      match Construct.read s keyword lead width operands with
      | .error e s => { state := s, error? := some e }
      | .ok effect s =>
        (s.parse (rest.drop width)).after effect (lead.span.through (operands.getLastD lead).span)
termination_by tokens => tokens.length
decreasing_by
  · exact Nat.lt_succ_self _
  · simp only [List.length_cons, List.length_drop]
    omega

namespace Parsed

/-- What a parse reports: each construct read, and the counts if it came to the end. -/
def log (name : String) (tokenCount : Nat) (parsed : Parsed) : List LogEntry :=
  parsed.nodes.map reading ++ if parsed.error?.isNone then [summary] else []
where
  /-- The entry for one construct. -/
  reading (node : Node) : LogEntry :=
    ⟨.debug, .parsing, node.span.text name ++ ": " ++ node.statement.text⟩
  /-- The counts. -/
  summary : LogEntry :=
    ⟨.info, .parsing,
      "Parsed " ++ Numeral.decimal parsed.nodes.length ++ " statement(s) and "
        ++ Numeral.decimal parsed.jobs.length ++ " job(s) from "
        ++ Numeral.decimal tokenCount ++ " token(s)"⟩

end Parsed

end TaskScript
