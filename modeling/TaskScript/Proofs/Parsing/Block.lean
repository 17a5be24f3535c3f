import Mathlib.Algebra.GroupWithZero.Nat
import Mathlib.Data.List.Forall2
import TaskScript.Parsed
import TaskScript.Proofs.Parsing.Construct

/-!
# Blocks of tokens

A parse goes through its tokens by blocks. A token that begins no construct is a block of its own,
and a keyword that begins one takes the tokens of its width with it, whatever they are: a keyword
among them begins nothing. Blocks carry these conditions in their type.

* `State.Reads`, `State.Refuses`: what a parse makes of blocks, and of a construct that cannot be
  read.
* `State.parse_stops`: a parse reads some blocks and then meets the end of the tokens or a construct
  that cannot be read.
* `Block.tokens_injective`: tokens fall into blocks in one way only.
* `State.parse_reads_blocks`: a parse that succeeds has read one node from each construct among the
  blocks of its tokens.
-/

namespace TaskScript

/-- A token that is passed over, or a construct with all its tokens. -/
inductive Block where
  | skipped (token : Located Token) (plain : ∀ k, token.val.kind = .keyword k → k.width? = none)
  | construct (lead : Located Token) (keyword : Keyword) (operands : List (Located Token))
      (leads : lead.val.kind = .keyword keyword) (full : keyword.width? = some operands.length)

namespace Block

/-- The tokens of a block. -/
def tokens : Block → List (Located Token)
  | skipped token _ => [token]
  | construct lead _ operands _ _ => lead :: operands

/-- Is it a construct? -/
def isConstruct : Block → Bool
  | skipped .. => false
  | construct .. => true

/-- The width of a construct. -/
def width? : Block → Option Nat
  | skipped .. => none
  | construct _ keyword _ _ _ => keyword.width?

/-- The nodes that a construct may be read as: the statement is one that the tokens spell, the span
runs from the start of the first token to the stop of the last, and there are no notes. -/
def Yields : Block → Node → Prop
  | skipped .., _ => False
  | construct lead keyword operands _ _, node =>
    Construct.Spells keyword operands node.statement ∧
      node.span = ⟨lead.span.start, (operands.getLastD lead).span.stop⟩ ∧ node.notes = []

end Block

namespace State

variable {s later : State} {lead : Located Token} {keyword : Keyword} {width : Nat}
  {operands rest : List (Located Token)} {effect : Effect} {e : Located ParseError}

/-! ## One block at a time -/

theorem parse_nil : s.parse [] = { state := s } := by
  rw [parse]

theorem parse_skipped (plain : ∀ k, lead.val.kind = .keyword k → k.width? = none) :
    s.parse ((Block.skipped lead plain).tokens ++ rest) = s.parse rest := by
  show s.parse (lead :: rest) = s.parse rest
  rw [parse, Construct.begin?_eq_none_iff.mpr plain]

theorem parse_of_error (leads : lead.val.kind = .keyword keyword)
    (wide : keyword.width? = some width)
    (failed : Construct.read s keyword lead width (rest.take width) = .error e later) :
    s.parse (lead :: rest) = { state := later, error? := some e } := by
  rw [parse, Construct.begin?_eq_some_iff.mpr ⟨leads, wide⟩]
  simp only [failed]

theorem parse_of_ok (leads : lead.val.kind = .keyword keyword)
    (full : keyword.width? = some operands.length)
    (done : Construct.read s keyword lead operands.length operands = .ok effect later) :
    s.parse ((Block.construct lead keyword operands leads full).tokens ++ rest) =
      (later.parse rest).after effect (lead.span.through (operands.getLastD lead).span) := by
  show s.parse (lead :: (operands ++ rest)) = _
  rw [parse, Construct.begin?_eq_some_iff.mpr ⟨leads, full⟩]
  simp only [List.take_left, List.drop_left, done]

/-- The tokens begin with a construct that cannot be read, for this reason: they end too soon, or
the construct is a memory directive that fails, whatever it has done before that. -/
inductive Refuses (s : State) : List (Located Token) → Located ParseError → Prop
  | short {lead : Located Token} {following : List (Located Token)} {keyword : Keyword}
      {width : Nat} (leads : lead.val.kind = .keyword keyword) (wide : keyword.width? = some width)
      (short : following.length < width) :
      Refuses s (lead :: following) ⟨.outOfTokens keyword width following.length, lead.span⟩
  | memory {lead directive argument : Located Token} {e : Located ParseError} {later : State}
      (leads : lead.val.kind = .keyword .memory)
      (failed : Construct.memory s directive argument = .error e later)
      (rest : List (Located Token)) :
      Refuses s (lead :: directive :: argument :: rest) e

theorem refuses_of_read (leads : lead.val.kind = .keyword keyword)
    (wide : keyword.width? = some width)
    (failed : Construct.read s keyword lead width (rest.take width) = .error e later) :
    s.Refuses (lead :: rest) e := by
  by_cases short : rest.length < width
  · rw [List.take_of_length_le (Nat.le_of_lt short), Construct.read_of_short wide short] at failed
    cases failed
    exact .short leads wide short
  · have taken : (rest.take width).length = width :=
      List.length_take_of_le (Nat.le_of_not_lt short)
    obtain ⟨rfl, directive, argument, pair, fails⟩ :=
      Construct.read_error (by rw [taken]; exact wide) failed
    have whole := List.take_append_drop width rest
    rw [pair] at whole
    rw [← whole]
    exact .memory leads fails _

/-- A construct that cannot be read has not touched the state. -/
theorem Refuses.parse_eq {tokens : List (Located Token)} (refuses : s.Refuses tokens e) :
    s.parse tokens = { state := s, error? := some e } := by
  cases refuses with
  | short leads wide short =>
    apply parse_of_error leads wide
    rw [List.take_of_length_le (Nat.le_of_lt short), Construct.read_of_short wide short]
  | memory leads failed rest =>
    obtain ⟨rfl, -⟩ := Construct.memory_error failed
    exact parse_of_error leads rfl failed

end State

/-! ## Many blocks -/

/-- What two parses have read together, the second of which went on where the first had ended. -/
def Parsed.append (earlier later : Parsed) : Parsed :=
  { later with
    nodes := earlier.nodes ++ later.nodes
    jobs := earlier.jobs ++ later.jobs }

theorem Parsed.after_append (effect : Effect) (span : Span) (earlier later : Parsed) :
    (earlier.after effect span).append later = (earlier.append later).after effect span := by
  simp [after, append]

namespace State

/-- From this state, these blocks are read with this result. -/
inductive Reads : State → List Block → Parsed → Prop
  | nil (s : State) : Reads s [] { state := s }
  | skipped {s : State} {token : Located Token} {blocks : List Block} {parsed : Parsed}
      (plain : ∀ k, token.val.kind = .keyword k → k.width? = none) (reads : Reads s blocks parsed) :
      Reads s (.skipped token plain :: blocks) parsed
  | construct {s later : State} {lead : Located Token} {keyword : Keyword}
      {operands : List (Located Token)} {effect : Effect} {blocks : List Block} {parsed : Parsed}
      (leads : lead.val.kind = .keyword keyword) (full : keyword.width? = some operands.length)
      (done : Construct.read s keyword lead operands.length operands = .ok effect later)
      (reads : Reads later blocks parsed) :
      Reads s (.construct lead keyword operands leads full :: blocks)
        (parsed.after effect (lead.span.through (operands.getLastD lead).span))

namespace Reads

variable {s : State} {blocks : List Block} {parsed : Parsed} {rest : List (Located Token)}
  {e : Located ParseError}

theorem error?_eq_none (reads : s.Reads blocks parsed) : parsed.error? = none := by
  induction reads with
  | nil s => rfl
  | skipped plain reads ih => exact ih
  | construct leads full done reads ih => exact ih

/-- A parse goes on after blocks that it has read as if it began there. -/
theorem parse_append (reads : s.Reads blocks parsed) (rest : List (Located Token)) :
    s.parse (blocks.flatMap Block.tokens ++ rest) =
      parsed.append (parsed.state.parse rest) := by
  induction reads with
  | nil s => rfl
  | skipped plain reads ih =>
    rw [List.flatMap_cons, List.append_assoc, parse_skipped plain, ih]
  | construct leads full done reads ih =>
    rw [List.flatMap_cons, List.append_assoc, parse_of_ok leads full done, ih,
      Parsed.after_append]
    rfl

/-- Blocks that are read together are read one part after the other. -/
theorem of_append {before after : List Block} (reads : s.Reads (before ++ after) parsed) :
    ∃ first rest : Parsed, s.Reads before first ∧ first.state.Reads after rest ∧
      parsed = first.append rest := by
  induction before generalizing s parsed with
  | nil => exact ⟨_, parsed, .nil s, reads, rfl⟩
  | cons block before ih =>
    cases reads with
    | skipped plain reads =>
      obtain ⟨first, rest, readsFirst, readsRest, rfl⟩ := ih reads
      exact ⟨first, rest, .skipped plain readsFirst, readsRest, rfl⟩
    | construct leads full done reads =>
      obtain ⟨first, rest, readsFirst, readsRest, rfl⟩ := ih reads
      exact ⟨_, rest, .construct leads full done readsFirst, readsRest,
        (Parsed.after_append ..).symm⟩

theorem parse_eq (reads : s.Reads blocks parsed) :
    s.parse (blocks.flatMap Block.tokens) = parsed := by
  have whole := reads.parse_append []
  rw [List.append_nil, parse_nil] at whole
  rw [whole]
  simp only [Parsed.append, List.append_nil, ← reads.error?_eq_none]

/-- A construct that cannot be read ends the parse and leaves nothing behind. -/
theorem parse_refused (reads : s.Reads blocks parsed) (refuses : parsed.state.Refuses rest e) :
    s.parse (blocks.flatMap Block.tokens ++ rest) = { parsed with error? := some e } := by
  rw [reads.parse_append, refuses.parse_eq]
  simp only [Parsed.append, List.append_nil]

end Reads

/-- A parse reads some blocks and then comes to the end of the tokens, or to a construct that cannot
be read. -/
theorem parse_stops (s : State) (tokens : List (Located Token)) :
    ∃ (blocks : List Block) (rest : List (Located Token)) (parsed : Parsed),
      tokens = blocks.flatMap Block.tokens ++ rest ∧ s.Reads blocks parsed ∧
        (rest = [] ∨ ∃ e, parsed.state.Refuses rest e) := by
  induction s, tokens using parse.induct with
  | case1 s => exact ⟨[], [], _, rfl, .nil s, .inl rfl⟩
  | case2 s lead rest begins ih =>
    have plain := Construct.begin?_eq_none_iff.mp begins
    obtain ⟨blocks, left, parsed, rfl, reads, stopped⟩ := ih
    exact ⟨.skipped lead plain :: blocks, left, parsed, rfl, .skipped plain reads, stopped⟩
  | case3 s lead rest keyword width begins operands e later failed =>
    obtain ⟨leads, wide⟩ := Construct.begin?_eq_some_iff.mp begins
    exact ⟨[], lead :: rest, _, rfl, .nil s, .inr ⟨e, refuses_of_read leads wide failed⟩⟩
  | case4 s lead rest keyword width begins operands effect later done ih =>
    obtain ⟨leads, wide⟩ := Construct.begin?_eq_some_iff.mp begins
    -- The construct was read, so the tokens did not end before its width.
    have full := Construct.width?_of_read_ok done
    have sized : operands.length = width := Option.some.inj (full.symm.trans wide)
    have whole : operands ++ rest.drop width = rest := List.take_append_drop width rest
    clear_value operands
    subst sized
    obtain ⟨blocks, left, parsed, split, reads, stopped⟩ := ih
    refine ⟨.construct lead keyword operands leads full :: blocks, left, _, ?_,
      .construct leads full done reads, stopped⟩
    rw [List.flatMap_cons, List.append_assoc, ← split]
    exact congrArg (lead :: ·) whole.symm

/-- A parse that succeeds has read all its tokens. -/
theorem exists_reads {s : State} {tokens : List (Located Token)}
    (succeeded : (s.parse tokens).error? = none) :
    ∃ blocks : List Block, blocks.flatMap Block.tokens = tokens ∧
      s.Reads blocks (s.parse tokens) := by
  obtain ⟨blocks, rest, parsed, rfl, reads, rfl | ⟨e, refuses⟩⟩ := s.parse_stops tokens
  · refine ⟨blocks, (List.append_nil _).symm, ?_⟩
    rw [List.append_nil, reads.parse_eq]
    exact reads
  · rw [reads.parse_refused refuses] at succeeded
    cases succeeded

/-- A parse that fails has read the tokens before a construct that cannot be read. -/
theorem exists_refuses {s : State} {tokens : List (Located Token)} {e : Located ParseError}
    (failed : (s.parse tokens).error? = some e) :
    ∃ (blocks : List Block) (rest : List (Located Token)) (parsed : Parsed),
      tokens = blocks.flatMap Block.tokens ++ rest ∧ s.Reads blocks parsed ∧
        parsed.state.Refuses rest e := by
  obtain ⟨blocks, rest, parsed, rfl, reads, rfl | ⟨e', refuses⟩⟩ := s.parse_stops tokens
  · rw [List.append_nil, reads.parse_eq, reads.error?_eq_none] at failed
    cases failed
  · rw [reads.parse_refused refuses] at failed
    obtain rfl : e' = e := Option.some.inj failed
    exact ⟨blocks, rest, parsed, rfl, reads, refuses⟩

end State

namespace Block

/-! ## Tokens fall into blocks in one way only -/

/-- The first token of a block decides where the block ends. -/
theorem tokens_append_inj {block other : Block} {rest left : List (Located Token)}
    (same : block.tokens ++ rest = other.tokens ++ left) : block = other ∧ rest = left := by
  cases block with
  | skipped token plain =>
    cases other with
    | skipped token' plain' =>
      obtain ⟨rfl, rfl⟩ := List.cons.inj same
      exact ⟨rfl, rfl⟩
    | construct lead keyword operands leads full =>
      obtain ⟨rfl, -⟩ := List.cons.inj same
      rw [plain keyword leads] at full
      cases full
  | construct lead keyword operands leads full =>
    cases other with
    | skipped token plain =>
      obtain ⟨rfl, -⟩ := List.cons.inj same
      rw [plain keyword leads] at full
      cases full
    | construct lead' keyword' operands' leads' full' =>
      -- The same keyword leads both, so both have its width, and the rests are what is left over.
      obtain ⟨rfl, tails⟩ := List.cons.inj same
      obtain rfl : keyword = keyword' := TokenKind.keyword.inj (leads.symm.trans leads')
      have lengths : operands.length = operands'.length := Option.some.inj (full.symm.trans full')
      obtain ⟨rfl, rfl⟩ := List.append_inj tails lengths
      exact ⟨rfl, rfl⟩

theorem tokens_ne_nil (block : Block) : block.tokens ≠ [] := by
  cases block with
  | skipped | construct => exact List.cons_ne_nil _ _

theorem tokens_injective :
    Function.Injective fun blocks : List Block => blocks.flatMap Block.tokens := by
  intro blocks others same
  induction blocks generalizing others with
  | nil =>
    cases others with
    | nil => rfl
    | cons other others =>
      have empty := List.append_eq_nil_iff.mp same.symm
      exact absurd empty.1 other.tokens_ne_nil
  | cons block blocks ih =>
    cases others with
    | nil =>
      have empty := List.append_eq_nil_iff.mp same
      exact absurd empty.1 block.tokens_ne_nil
    | cons other others =>
      obtain ⟨rfl, left⟩ := tokens_append_inj same
      rw [ih left]

theorem length_tokens (blocks : List Block) :
    (blocks.flatMap Block.tokens).length =
      (blocks.filter (!·.isConstruct)).length + ((blocks.filterMap width?).map (· + 1)).sum := by
  induction blocks with
  | nil => rfl
  | cons block blocks ih =>
    rw [List.flatMap_cons, List.length_append, ih]
    cases block with
    | skipped token plain =>
      have one : (skipped token plain).tokens.length = 1 := rfl
      rw [List.filter_cons_of_pos rfl, List.filterMap_cons_none rfl, List.length_cons, one]
      omega
    | construct lead keyword operands leads full =>
      have wide : (construct lead keyword operands leads full).width? = some operands.length := full
      have more : (construct lead keyword operands leads full).tokens.length =
        operands.length + 1 := rfl
      rw [List.filter_cons_of_neg (by simp [isConstruct]), List.filterMap_cons_some wide,
        List.map_cons, List.sum_cons, more]
      omega

end Block

namespace State

/-- Each construct that is read has its node. -/
theorem Reads.yields {s : State} {blocks : List Block} {parsed : Parsed}
    (reads : s.Reads blocks parsed) :
    List.Forall₂ Block.Yields (blocks.filter Block.isConstruct) parsed.nodes := by
  induction reads with
  | nil s => exact .nil
  | skipped plain reads ih => exact ih
  | construct leads full done reads ih =>
    exact .cons ⟨(Construct.read_ok done).1, rfl, rfl⟩ ih

/-- The tokens of a parse that succeeds fall into blocks, in one way only. The parse has one node
for each construct among them, in order, read from the places of its tokens, and nothing for the
tokens that are passed over. Wherever as many tokens follow a keyword as its width says, there is a
construct to carry out. -/
theorem parse_reads_blocks (s : State) (tokens : List (Located Token))
    (succeeded : (s.parse tokens).error? = none) :
    ∃ blocks : List Block,
      blocks.flatMap Block.tokens = tokens ∧
      (∀ others : List Block, others.flatMap Block.tokens = tokens → others = blocks) ∧
      List.Forall₂ Block.Yields (blocks.filter Block.isConstruct) (s.parse tokens).nodes ∧
      tokens.length = (blocks.filter (!·.isConstruct)).length +
        ((blocks.filterMap Block.width?).map (· + 1)).sum ∧
      ∀ (t : State) (keyword : Keyword) (operands : List (Located Token)),
        keyword.width? = some operands.length →
          (Construct.carryOut? t keyword operands).isSome = true := by
  obtain ⟨blocks, rfl, reads⟩ := exists_reads succeeded
  refine ⟨blocks, rfl, ?_, reads.yields, Block.length_tokens blocks, ?_⟩
  · intro others same
    exact Block.tokens_injective same
  · intro t keyword operands full
    exact Construct.carryOut?_isSome_iff.mpr full

/-- Tokens one under the other, each on a line of its own. -/
def tokenColumn (tokens : List Token) : List (Located Token) :=
  tokens.mapIdx fun i token => ⟨token, ⟨⟨i + 1, 1⟩, ⟨i + 1, 1 + token.text.length⟩⟩⟩

/-- Keywords in the places of a declaration, and one that begins no construct. -/
def swallowed : List (Located Token) :=
  tokenColumn [.keyword .declare, .keyword .quantum, .punctuation ':', .keyword .memory,
    .operator '=', .keyword .sync, .punctuation ';', .keyword .allocate, .keyword .optimize]

theorem parse_reads_swallowed_keywords :
    (State.parse {} swallowed).error? = none ∧
      (State.parse {} swallowed).nodes.map (·.statement) =
        [.declaration "quantum" "memory" "sync", .optimize] ∧
      ∃ blocks : List Block, blocks.flatMap Block.tokens = swallowed ∧
        (∀ others : List Block, others.flatMap Block.tokens = swallowed → others = blocks) ∧
        (blocks.filter Block.isConstruct).length = 2 := by
  have succeeded : (State.parse {} swallowed).error? = none := by decide +kernel
  refine ⟨succeeded, by decide +kernel, ?_⟩
  obtain ⟨blocks, whole, unique, yields, -, -⟩ := parse_reads_blocks {} swallowed succeeded
  refine ⟨blocks, whole, unique, ?_⟩
  rw [yields.length_eq]
  decide +kernel

end State

end TaskScript
