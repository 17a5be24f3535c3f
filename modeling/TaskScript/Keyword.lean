/-!
# Keywords

The words that the language keeps for itself. A keyword that begins a construct is followed by a
fixed number of tokens, its width, whatever those tokens are.
-/

namespace TaskScript

/-- A word with a meaning of its own. -/
inductive Keyword where
  | declare
  | define
  | condition
  | quantum
  | blockchain
  | sync
  | async
  | memory
  | allocate
  | deallocate
  | optimize
deriving DecidableEq

namespace Keyword

/-- All keywords. -/
def all : List Keyword :=
  [declare, define, condition, quantum, blockchain, sync, async, memory, allocate, deallocate,
    optimize]

/-- The spelling of a keyword. -/
def text : Keyword → String
  | declare => "let"
  | define => "fn"
  | condition => "if"
  | quantum => "quantum"
  | blockchain => "blockchain"
  | sync => "sync"
  | async => "async"
  | memory => "memory"
  | allocate => "allocate"
  | deallocate => "deallocate"
  | optimize => "optimize"

/-- The keyword of a word, where case matters. -/
def ofText? (word : String) : Option Keyword := all.find? (·.text = word)

/-- How many tokens follow a keyword that begins a construct. -/
def width? : Keyword → Option Nat
  | declare => some 5
  | define | condition | quantum | memory => some 2
  | blockchain | sync | async => some 1
  | optimize => some 0
  | allocate | deallocate => none

end Keyword

end TaskScript
