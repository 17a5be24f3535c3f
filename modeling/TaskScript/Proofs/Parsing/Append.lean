import TaskScript.Proofs.Parsing.Block

/-!
# Parsing in parts

A parse carries nothing from one block to the next but the state. So a parse of some tokens can be
broken off after any block and taken up again from the state that it left, and a parse that fails
has done what the tokens before the failing construct do, and no more.

* `State.parse_in_two_parts`: parsing tokens that stand one after the other is parsing the first and
  then the second.
* `State.parse_fails_at_construct`: a parse that fails stops before one construct, whose fault the
  error names at the place of the token to blame.
-/

namespace TaskScript.State

/-- More tokens after a construct with all its own do not help it. -/
theorem Refuses.append {s : State} {tokens : List (Located Token)} {e : Located ParseError}
    (refuses : s.Refuses tokens e)
    (notShort : ∀ keyword expected found, e.val ≠ .outOfTokens keyword expected found)
    (more : List (Located Token)) : s.Refuses (tokens ++ more) e := by
  cases refuses with
  | short leads wide short => exact absurd rfl (notShort _ _ _)
  | memory leads failed rest => exact .memory leads failed (rest ++ more)

/-- Parsing tokens that stand one after the other is parsing the first, and then the second from the
state that the first has left. A fault in the first that is no lack of tokens is final. -/
theorem parse_in_two_parts (s : State) (first second : List (Located Token)) :
    ((s.parse first).error? = none →
      let earlier := s.parse first
      let later := earlier.state.parse second
      let whole := s.parse (first ++ second)
      whole.nodes = earlier.nodes ++ later.nodes ∧ whole.jobs = earlier.jobs ++ later.jobs ∧
        whole.state = later.state ∧ whole.error? = later.error?) ∧
    ∀ e, (s.parse first).error? = some e →
      (∀ keyword expected found, e.val ≠ .outOfTokens keyword expected found) →
        (s.parse (first ++ second)).error? = some e ∧
          (s.parse (first ++ second)).state = (s.parse first).state := by
  constructor
  · intro succeeded
    obtain ⟨blocks, rfl, reads⟩ := exists_reads succeeded
    rw [reads.parse_append]
    exact ⟨rfl, rfl, rfl, rfl⟩
  · intro e failed notShort
    obtain ⟨blocks, rest, parsed, rfl, reads, refuses⟩ := exists_refuses failed
    have stillRefuses := refuses.append notShort second
    rw [List.append_assoc, reads.parse_refused refuses, reads.parse_refused stillRefuses]
    exact ⟨rfl, rfl⟩

/-- A block is reserved. -/
def reserving : List (Located Token) :=
  tokenColumn [.keyword .memory, .keyword .allocate, .number "8", .punctuation ';']

/-- That block is released, and then a declaration is cut short. -/
def releasing : List (Located Token) :=
  tokenColumn [.keyword .memory, .keyword .deallocate, .number "0X01000", .keyword .declare,
    .identifier "x"]

/-- There is no such directive. -/
def misspelled : List (Located Token) :=
  tokenColumn [.keyword .memory, .identifier "reserve", .number "10"]

theorem parse_reserving_then_releasing :
    (State.parse {} reserving).error? = none ∧
      (State.parse {} (reserving ++ releasing)).state =
        ((State.parse {} reserving).state.parse releasing).state ∧
      (State.parse {} (reserving ++ releasing)).error? =
        some ⟨.outOfTokens .declare 5 1, ⟨⟨4, 1⟩, ⟨4, 4⟩⟩⟩ ∧
      (State.parse {} misspelled).error? =
        some ⟨.badMemoryDirective (.identifier "reserve"), ⟨⟨2, 1⟩, ⟨2, 8⟩⟩⟩ ∧
      (State.parse {} (misspelled ++ reserving)).error? =
        some ⟨.badMemoryDirective (.identifier "reserve"), ⟨⟨2, 1⟩, ⟨2, 8⟩⟩⟩ := by
  have succeeded : (State.parse {} reserving).error? = none := by decide +kernel
  have failed : (State.parse {} misspelled).error? =
      some ⟨.badMemoryDirective (.identifier "reserve"), ⟨⟨2, 1⟩, ⟨2, 8⟩⟩⟩ := by decide +kernel
  obtain ⟨goesOn, -⟩ := parse_in_two_parts {} reserving releasing
  obtain ⟨-, -, sameState, sameError⟩ := goesOn succeeded
  obtain ⟨-, stays⟩ := parse_in_two_parts {} misspelled reserving
  have stillFailed := (stays _ failed (by simp)).1
  refine ⟨succeeded, sameState, ?_, failed, stillFailed⟩
  rw [sameError]
  decide +kernel

/-- A parse that fails has read the tokens before one construct, and nothing of that construct. The
error lies with the keyword where the tokens end too soon; otherwise the construct is a memory
directive, and the error lies with the one of its tokens that is at fault. -/
theorem parse_fails_at_construct (s : State) (tokens : List (Located Token))
    (e : Located ParseError) (failed : (s.parse tokens).error? = some e) :
    ∃ (k : Nat) (lead : Located Token) (following : List (Located Token)) (keyword : Keyword)
      (width : Nat),
      tokens.drop k = lead :: following ∧ lead.val.kind = .keyword keyword ∧
      keyword.width? = some width ∧
      (s.parse (tokens.take k)).error? = none ∧
      s.parse tokens = { s.parse (tokens.take k) with error? := some e } ∧
      ((∃ keyword expected found, e.val = .outOfTokens keyword expected found) ↔
        following.length < width) ∧
      (following.length < width →
        e = ⟨.outOfTokens keyword width following.length, lead.span⟩) ∧
      (width ≤ following.length → keyword = .memory ∧
        ∃ directive argument, following[0]? = some directive ∧ following[1]? = some argument ∧
          Construct.MemoryFault (s.parse (tokens.take k)).state.heap directive argument e) := by
  obtain ⟨blocks, rest, parsed, rfl, reads, refuses⟩ := exists_refuses failed
  have before := reads.error?_eq_none
  have whole := reads.parse_refused refuses
  -- The failing construct stands right after the tokens of the blocks.
  cases refuses with
  | @short lead following keyword width leads wide short =>
    refine ⟨(blocks.flatMap Block.tokens).length, lead, following, keyword, width, ?_⟩
    rw [List.drop_left, List.take_left, reads.parse_eq]
    refine ⟨rfl, leads, wide, before, whole, ?_, fun _ => rfl, fun enough => ?_⟩
    · exact ⟨fun _ => short, fun _ => ⟨_, _, _, rfl⟩⟩
    · omega
  | @memory lead directive argument _ _ leads fails rest =>
    refine ⟨(blocks.flatMap Block.tokens).length, lead, directive :: argument :: rest, .memory, 2,
      ?_⟩
    rw [List.drop_left, List.take_left, reads.parse_eq]
    obtain ⟨-, fault⟩ := Construct.memory_error fails
    have enough : 2 ≤ (directive :: argument :: rest).length := Nat.le_add_left 2 rest.length
    refine ⟨rfl, leads, rfl, before, whole, ?_, fun short => ?_, fun _ => ?_⟩
    · constructor
      · rintro ⟨keyword, expected, found, isShort⟩
        cases fault <;> cases isShort
      · intro short
        omega
    · omega
    · exact ⟨rfl, directive, argument, rfl, rfl, fault⟩

theorem parse_fails_at_misspelled_directive :
    let tokens := reserving ++ misspelled
    let e : Located ParseError :=
      ⟨.badMemoryDirective (.identifier "reserve"), ⟨⟨2, 1⟩, ⟨2, 8⟩⟩⟩
    (State.parse {} tokens).error? = some e ∧
      ∃ k lead following directive argument, tokens.drop k = lead :: following ∧
        following[0]? = some directive ∧ following[1]? = some argument ∧
        (State.parse {} (tokens.take k)).error? = none ∧
        (State.parse {} tokens).state = (State.parse {} (tokens.take k)).state ∧
        Construct.MemoryFault (State.parse {} (tokens.take k)).state.heap directive argument e := by
  intro tokens e
  have failed : (State.parse {} tokens).error? = some e := by decide +kernel
  obtain ⟨k, lead, following, keyword, width, here, -, -, before, whole, isShort, -, otherwise⟩ :=
    parse_fails_at_construct {} tokens e failed
  have enough : width ≤ following.length := by
    apply Nat.le_of_not_lt
    intro short
    obtain ⟨_, _, _, outOfTokens⟩ := isShort.mpr short
    cases outOfTokens
  obtain ⟨-, directive, argument, first, second, fault⟩ := otherwise enough
  exact ⟨failed, k, lead, following, directive, argument, here, first, second, before,
    by rw [whole], fault⟩

end TaskScript.State
