import TaskScript.State
import TaskScript.Token

/-!
# Constructs

A construct is a keyword with as many tokens after it as its width says. It is read by position:
each field of its statement is the text of the token at a fixed place, whatever that token is, and
the tokens at the other places are not looked at. Reading a construct also acts on the state, step
by step, and the state stays as it has become also where the construct fails.
-/

namespace TaskScript

/-- Why a construct cannot be read. -/
inductive ParseError where
  | outOfTokens (keyword : Keyword) (expected found : Nat)
  | unknownAllocationHandle (text : String)
  | badMemoryDirective (token : Token)
  | badAllocationSize (text : String)
  | exhaustedMemory
deriving DecidableEq

namespace ParseError

/-- The text of the error. -/
def message : ParseError → String
  | outOfTokens keyword expected found =>
    "`" ++ keyword.text ++ "` expects " ++ Numeral.decimal expected ++ " more token(s), found "
      ++ Numeral.decimal found
  | unknownAllocationHandle text => "Unknown allocation handle `" ++ text ++ "`"
  | badMemoryDirective token =>
    "Expected `allocate` or `deallocate`, found " ++ token.describe
  | badAllocationSize text => "Expected an allocation size in bytes, found `" ++ text ++ "`"
  | exhaustedMemory => "Memory pool error: " ++ HeapError.message .exhausted

/-- The error of a directive that the heap refuses. -/
def ofHeap : HeapError → ParseError
  | .unknownHandle text => unknownAllocationHandle text
  | .exhausted => exhaustedMemory

end ParseError

/-- What a construct amounts to beside what it does to the state: its statement and the job that it
schedules. -/
structure Effect where
  statement : Statement
  job? : Option Job := none

namespace Construct

/-- What reading a construct comes to: its effect or the error, and the state then. -/
abbrev Outcome := EStateM.Result (Located ParseError) State Effect

/-- The text that a token was read from. -/
def lexeme (token : Located Token) : String := token.val.text

/-- Schedules a task. -/
def schedule (s : State) (mode : TaskMode) (task : String) : Outcome :=
  .ok { statement := .schedule mode task, job? := some (s.job mode task) } s

/-- The size that a token states. -/
def size? (argument : Located Token) : Option Nat :=
  Numeral.readBelow? 10 addressLimit (Numeral.afterPlus (lexeme argument).toList)

/-- Reserves memory. -/
def allocate (s : State) (argument : Located Token) : Outcome :=
  match size? argument with
  | none => .error ⟨.badAllocationSize (lexeme argument), argument.span⟩ s
  | some size =>
    match s.heap.allocate size with
    | .error e heap => .error ⟨.ofHeap e, argument.span⟩ { s with heap }
    | .ok handle heap => .ok { statement := .allocate size handle } { s with heap }

/-- Releases memory. -/
def deallocate (s : State) (argument : Located Token) : Outcome :=
  match s.heap.free (lexeme argument) with
  | .error e heap => .error ⟨.ofHeap e, argument.span⟩ { s with heap }
  | .ok size heap => .ok { statement := .deallocate (lexeme argument) size } { s with heap }

/-- Carries out a memory directive. -/
def memory (s : State) (directive argument : Located Token) : Outcome :=
  if directive.val.is .allocate then allocate s argument
  else if directive.val.is .deallocate then deallocate s argument
  else .error ⟨.badMemoryDirective directive.val, directive.span⟩ s

/-- Carries out a construct whose tokens are all there. A keyword with any other number of tokens
after it is no construct. -/
def carryOut? (s : State) (keyword : Keyword) (operands : List (Located Token)) : Option Outcome :=
  match keyword, operands with
  | .declare, [name, _, type, _, value] =>
    -- The symbol that was there before is of no use to a program.
    let (_, s) := s.declare (lexeme name) (lexeme type) (lexeme value)
    some (.ok { statement := .declaration (lexeme name) (lexeme type) (lexeme value) } s)
  | .define, [name, params] =>
    some (.ok { statement := .function (lexeme name) (lexeme params) } s)
  | .condition, [condition, _] =>
    some (.ok { statement := .conditional (lexeme condition) } s)
  | .quantum, [qubit, operation] =>
    let s := s.applyQuantum (lexeme qubit) (lexeme operation)
    some (.ok { statement := .quantum (lexeme qubit) (lexeme operation) } s)
  | .blockchain, [transaction] =>
    let s := s.transact (lexeme transaction)
    some (.ok { statement := .ledger (lexeme transaction) } s)
  | .sync, [task] => some (schedule s .sync (lexeme task))
  | .async, [task] => some (schedule s .async (lexeme task))
  | .memory, [directive, argument] => some (memory s directive argument)
  | .optimize, [] => some (.ok { statement := .optimize } s)
  | _, _ => none

/-- Reads a construct from its keyword and the tokens after it, of which there are as many as its
width says unless the input ends before. -/
def read (s : State) (keyword : Keyword) (lead : Located Token) (width : Nat)
    (operands : List (Located Token)) : Outcome :=
  match carryOut? s keyword operands with
  | some outcome => outcome
  -- Fewer tokens are left than the width asks for.
  | none => .error ⟨.outOfTokens keyword width operands.length, lead.span⟩ s

/-- The keyword and the width of a construct that begins with the token, if one does. -/
def begin? (token : Token) : Option (Keyword × Nat) :=
  match token.kind with
  | .keyword k => k.width?.map (k, ·)
  | .identifier | .number | .operator | .punctuation => none

end Construct

end TaskScript
