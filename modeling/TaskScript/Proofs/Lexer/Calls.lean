import TaskScript.Proofs.Lexer.Reading

/-!
# Calls for the next token

The machine is asked for one token after another. A call goes through rounds until there is an
answer, and some of these rounds take no character: a sign is given one round late, the end of a
word is seen at what follows it, and a comment may be left where the characters end. That calls end
all the same, and end with the last character and not before, rests on two facts. A round that takes
nothing and gives nothing leaves a comment behind (`LexState.goesOn_nil`), and part of a token is
never at hand without the place where it started (`Lexer.Sound`).

* `Lexer.exists_answersAfter`: from any state, an answer comes within a bounded number of rounds.
* `Lexer.Reachable.sound`: what holds of every state that the machine of a source can be in.
* `Lexer.Sound.comesTo_next`: what a call comes to.
* `Lexer.calls_exhaust_source`: all calls for the tokens of a source.
-/

namespace TaskScript

/-- That there is no token is answered only where no token has begun and nothing is ahead. -/
theorem LexState.eq_start_of_gives_none {state : LexState} {rest : List Glyph}
    (round : state.round rest = .gives none) : state = start ∧ rest = [] := by
  revert round
  fun_cases LexState.round state rest with
  | case1 => exact fun _ => ⟨rfl, rfl⟩
  | _ => simp

namespace Lexer

/-! ## Rounds -/

/-- The machine gives an answer after some rounds that gave none. -/
inductive AnswersAfter : Lexer → Nat → Option Token × Lexer → Prop
  | gives {lexer : Lexer} {token? : Option Token}
      (round : lexer.state.round lexer.rest = .gives token?) :
      AnswersAfter lexer 0 (token?, lexer.settle)
  | goesOn {lexer : Lexer} {state : LexState} {warning? : Option (Located LexWarning)}
      {rounds : Nat} {answer : Option Token × Lexer}
      (round : lexer.state.round lexer.rest = .goesOn state warning?)
      (later : AnswersAfter (lexer.goOn state warning?) rounds answer) :
      AnswersAfter lexer (rounds + 1) answer

/-- Each round but one takes a character, and that one leaves a comment where nothing is ahead. -/
theorem exists_answersAfter (lexer : Lexer) :
    ∃ rounds ≤ lexer.rest.length + 1, lexer.AnswersAfter rounds lexer.lex := by
  induction lexer using lex.induct with
  | case1 lexer token? round =>
    rw [lex_of_gives round]
    exact ⟨0, Nat.zero_le _, .gives round⟩
  | case2 lexer state warning? round ih =>
    rw [lex_of_goesOn round]
    cases rest : lexer.rest with
    | nil =>
      have left : state = .start := by
        rw [rest] at round
        exact (LexState.goesOn_nil round).2
      have ended : (lexer.goOn state warning?).state.round (lexer.goOn state warning?).rest =
          .gives none := by
        rw [goOn_state, goOn_rest, rest, left]
        rfl
      rw [lex_of_gives ended]
      exact ⟨1, Nat.le_refl 1, .goesOn round (.gives ended)⟩
    | cons glyph more =>
      obtain ⟨rounds, few, later⟩ := ih
      rw [goOn_rest, rest, List.tail_cons] at few
      exact ⟨rounds + 1, Nat.succ_le_succ few, .goesOn round later⟩

/-! ## States that the machine can be in -/

/-- The machine for a source, before the first call. -/
def ofSource (source : Source) : Lexer := { rest := source.glyphs }

/-- A state that the machine for a source can be in, between calls and in the middle of them. -/
inductive Reachable (source : Source) : Lexer → Prop
  | new : Reachable source (ofSource source)
  | round {lexer : Lexer} {state : LexState} {warning? : Option (Located LexWarning)}
      (earlier : Reachable source lexer)
      (round : lexer.state.round lexer.rest = .goesOn state warning?) :
      Reachable source (lexer.goOn state warning?)
  | next {lexer : Lexer} (earlier : Reachable source lexer) : Reachable source lexer.next.2

/-- Where part of a token has been read, its start is known. -/
def Sound (lexer : Lexer) : Prop := lexer.state.inToken = true → lexer.start?.isSome = true

theorem Sound.goOn {lexer : Lexer} {state : LexState} {warning? : Option (Located LexWarning)}
    (round : lexer.state.round lexer.rest = .goesOn state warning?) :
    (lexer.goOn state warning?).Sound := by
  intro part
  rw [goOn_state] at part
  cases rest : lexer.rest with
  | nil =>
    rw [rest] at round
    rw [(LexState.goesOn_nil round).2] at part
    cases part
  | cons glyph more => simp [Lexer.goOn, take, rest, part]

/-! ## What a call comes to -/

/-- Nothing is ahead and no token has begun. -/
def IsSpent (lexer : Lexer) : Prop := lexer.state = .start ∧ lexer.rest = []

theorem rest_lex_suffix (lexer : Lexer) : lexer.lex.2.rest <:+ lexer.rest := by
  induction lexer using lex.induct with
  | case1 lexer token? round =>
    rw [lex_of_gives round]
    exact ⟨[], settle_rest lexer⟩
  | case2 lexer state warning? round ih =>
    rw [lex_of_goesOn round]
    rw [goOn_rest] at ih
    exact ih.trans (List.tail_suffix _)

/-- There is no further token only where nothing is ahead. -/
theorem isSpent_of_lex {lexer : Lexer} (none : lexer.lex.1 = none) : lexer.lex.2.IsSpent := by
  induction lexer using lex.induct with
  | case1 lexer token? round =>
    rw [lex_of_gives round] at none ⊢
    obtain rfl : token? = Option.none := none
    obtain ⟨start, nothing⟩ := LexState.eq_start_of_gives_none round
    refine ⟨?_, (settle_rest lexer).trans nothing⟩
    show lexer.settle.state = .start
    unfold settle
    rw [start]
  | case2 lexer state warning? round ih =>
    rw [lex_of_goesOn round] at none ⊢
    exact ih none

/-- A token is given together with its start. -/
theorem Sound.start_of_lex {lexer : Lexer} (sound : lexer.Sound) {token : Token}
    (given : lexer.lex.1 = some token) : ∃ start, lexer.lex.2.start? = some start := by
  induction lexer using lex.induct with
  | case1 lexer token? round =>
    rw [lex_of_gives round] at given ⊢
    obtain rfl : token? = some token := given
    have part := LexState.inToken_of_gives round
    have unsettled : lexer.settle = lexer := by
      unfold settle
      split
      case h_1 start =>
        rw [start] at part
        cases part
      case h_2 => rfl
    show ∃ start, lexer.settle.start? = some start
    rw [unsettled]
    exact Option.isSome_iff_exists.mp (sound part)
  | case2 lexer state warning? round ih =>
    rw [lex_of_goesOn round] at given ⊢
    exact ih (.goOn round) given

/-- What a call comes to. Either a token is given, and the machine stands ready behind the
characters taken, or all characters have been taken and there is none. -/
inductive ComesTo (lexer : Lexer) : Option (Located Token) × Lexer → Prop
  | token {token : Located Token} {later : Lexer} {taken : List Glyph}
      (given : lexer.lex.1 = some token.val) (ready : later.state = .start)
      (ahead : lexer.rest = taken ++ later.rest)
      (moved : lexer.state.inToken = false → taken ≠ []) : ComesTo lexer (some token, later)
  | ended {later : Lexer} (nothing : lexer.lex.1 = none) (spent : later.IsSpent) :
      ComesTo lexer (none, later)

theorem Sound.comesTo_next {lexer : Lexer} (sound : lexer.Sound) : lexer.ComesTo lexer.next := by
  unfold next
  rcases read : lexer.lex with ⟨token?, later⟩
  have given : lexer.lex.1 = token? := by rw [read]
  cases token? with
  | none =>
    have spent := isSpent_of_lex given
    rw [read] at spent
    exact .ended given spent
  | some token =>
    obtain ⟨start, started⟩ := sound.start_of_lex given
    obtain ⟨taken, ahead⟩ := lexer.rest_lex_suffix
    have fewer := lex_rest_length given
    rw [read] at started ahead fewer
    dsimp only at started ⊢
    rw [started]
    refine .token given rfl ahead.symm ?_
    rintro fresh rfl
    have same : later.rest = lexer.rest := ahead
    rw [fresh, if_neg Bool.false_ne_true] at fewer
    change later.rest.length + 1 ≤ lexer.rest.length at fewer
    rw [same] at fewer
    exact Nat.not_succ_le_self _ fewer

theorem Sound.state_next {lexer : Lexer} (sound : lexer.Sound) :
    lexer.next.2.state = .start := by
  rcases called : lexer.next with ⟨token?, later⟩
  have comes := sound.comesTo_next
  rw [called] at comes
  cases comes with
  | token given ready ahead moved => exact ready
  | ended nothing spent => exact spent.1

/-- A token that is recognized is given, and none is given only where nothing is ahead. -/
theorem Sound.next_complete {lexer : Lexer} (sound : lexer.Sound) :
    (∀ token, lexer.lex.1 = some token →
      ∃ located, lexer.next.1 = some located ∧ located.val = token) ∧
    (lexer.next.1 = none → lexer.next.2.rest = []) := by
  rcases called : lexer.next with ⟨token?, later⟩
  have comes := sound.comesTo_next
  rw [called] at comes
  cases comes with
  | token given =>
    constructor
    · intro token recognized
      exact ⟨_, rfl, Option.some.inj (given.symm.trans recognized)⟩
    · intro absent
      cases absent
  | ended nothing spent =>
    constructor
    · intro token recognized
      rw [nothing] at recognized
      cases recognized
    · intro _
      exact spent.2

theorem sound_of_start {lexer : Lexer} (ready : lexer.state = .start) : lexer.Sound := by
  intro part
  rw [ready] at part
  cases part

theorem Reachable.sound {source : Source} {lexer : Lexer} (reachable : Reachable source lexer) :
    lexer.Sound := by
  induction reachable with
  | new => exact sound_of_start rfl
  | round _ round => exact .goOn round
  | next _ ih => exact sound_of_start ih.state_next

/-- Where nothing is left, a call changes nothing but that the start of the last token is
forgotten. -/
theorem IsSpent.next_eq {lexer : Lexer} (spent : lexer.IsSpent) :
    lexer.next = (none, { lexer with start? := none }) := by
  obtain ⟨rest, state, start?, last?, warnings⟩ := lexer
  obtain ⟨rfl, rfl⟩ : state = .start ∧ rest = [] := spent
  unfold next
  rw [lex_of_gives rfl]
  rfl

/-! ## Call after call -/

/-- The machine after some calls. -/
def afterCalls (lexer : Lexer) : Nat → Lexer
  | 0 => lexer
  | calls + 1 => lexer.next.2.afterCalls calls

/-- The answer to the next call after some calls. -/
def answer (lexer : Lexer) (calls : Nat) : Option (Located Token) := (lexer.afterCalls calls).next.1

theorem afterCalls_add (lexer : Lexer) (calls more : Nat) :
    lexer.afterCalls (calls + more) = (lexer.afterCalls calls).afterCalls more := by
  induction calls generalizing lexer with
  | zero => rw [Nat.zero_add]; rfl
  | succ calls ih => rw [Nat.succ_add]; exact ih lexer.next.2

theorem state_afterCalls {lexer : Lexer} (ready : lexer.state = .start) (calls : Nat) :
    (lexer.afterCalls calls).state = .start := by
  induction calls generalizing lexer with
  | zero => exact ready
  | succ calls ih => exact ih (sound_of_start ready).state_next

/-- Once spent, the machine gives no token and no warning. -/
theorem IsSpent.afterCalls {lexer : Lexer} (spent : lexer.IsSpent) (calls : Nat) :
    (lexer.afterCalls calls).IsSpent ∧ (lexer.afterCalls calls).warnings = lexer.warnings ∧
      lexer.answer calls = none := by
  induction calls generalizing lexer with
  | zero => exact ⟨spent, rfl, congrArg Prod.fst spent.next_eq⟩
  | succ calls ih =>
    have later : lexer.next.2.IsSpent := by
      rw [spent.next_eq]
      exact spent
    obtain ⟨stillSpent, silent, nothing⟩ := ih later
    refine ⟨stillSpent, silent.trans ?_, nothing⟩
    rw [spent.next_eq]

/-- The answers are the tokens of the source, and then there is none. -/
theorem answer_eq_getElem? {lexer : Lexer} (ready : lexer.state = .start) (calls : Nat) :
    lexer.answer calls = lexer.tokens.1[calls]? := by
  induction calls generalizing lexer with
  | zero =>
    show lexer.next.1 = _
    rcases called : lexer.next with ⟨token?, later⟩
    cases token? with
    | none => rw [tokens_of_next_none called]; rfl
    | some token => rw [tokens_of_next called]; rfl
  | succ calls ih =>
    have sound := sound_of_start ready
    show lexer.next.2.answer calls = _
    rw [ih sound.state_next]
    rcases called : lexer.next with ⟨token?, later⟩
    have comes := sound.comesTo_next
    rw [called] at comes
    cases comes with
    | token => rw [tokens_of_next called]; rfl
    | ended nothing spent =>
      rw [tokens_of_next_none called]
      show later.tokens.1[calls]? = none
      rw [tokens_of_next_none spent.next_eq]
      rfl

theorem comesTo_answer {lexer : Lexer} (ready : lexer.state = .start) (calls : Nat) :
    (lexer.afterCalls calls).ComesTo (lexer.answer calls, lexer.afterCalls (calls + 1)) := by
  rw [afterCalls_add]
  exact (sound_of_start (state_afterCalls ready calls)).comesTo_next

/-- Between two tokens at least one character is taken. -/
theorem exists_taken {lexer : Lexer} (ready : lexer.state = .start) {calls : Nat}
    {token : Located Token} (given : lexer.answer calls = some token) :
    ∃ taken, taken ≠ [] ∧
      (lexer.afterCalls calls).rest = taken ++ (lexer.afterCalls (calls + 1)).rest := by
  have comes := comesTo_answer ready calls
  rw [given] at comes
  cases comes with
  | token _ _ ahead moved =>
    refine ⟨_, moved ?_, ahead⟩
    rw [state_afterCalls ready calls]
    rfl

theorem length_tokens_le {lexer : Lexer} (ready : lexer.state = .start) :
    lexer.tokens.1.length ≤ lexer.rest.length := by
  -- After as many tokens, at least as many characters are gone.
  have taken : ∀ calls ≤ lexer.tokens.1.length,
      (lexer.afterCalls calls).rest.length + calls ≤ lexer.rest.length := by
    intro calls
    induction calls with
    | zero => exact fun _ => Nat.le_refl _
    | succ calls ih =>
      intro given
      have earlier := ih (Nat.le_of_succ_le given)
      have token := (answer_eq_getElem? ready calls).trans (List.getElem?_eq_getElem given)
      obtain ⟨taken, nonempty, ahead⟩ := exists_taken ready token
      have positive := List.length_pos_iff.mpr nonempty
      rw [ahead, List.length_append] at earlier
      omega
  have all := taken _ (Nat.le_refl _)
  omega

/-- From whatever state, a call comes to an answer in no more rounds than there are characters ahead
and one. In every state that the machine for a source can be in, a token that is recognized is
given, and there is none only where nothing is ahead. Each token has taken a character since the one
before it, so the tokens, which are those of the source one by one, are at most as many as its
characters. After the first call that gives none, every further one gives none and adds no
warning. -/
theorem calls_exhaust_source (source : Source) :
    let lexer := ofSource source
    (∀ now : Lexer, ∃ rounds ≤ now.rest.length + 1, now.AnswersAfter rounds now.lex) ∧
    (∀ now, Reachable source now →
      (∀ token, now.lex.1 = some token →
        ∃ located, now.next.1 = some located ∧ located.val = token) ∧
      (now.next.1 = none → now.next.2.rest = [])) ∧
    (∀ calls token, lexer.answer calls = some token → ∃ taken, taken ≠ [] ∧
      (lexer.afterCalls calls).rest = taken ++ (lexer.afterCalls (calls + 1)).rest) ∧
    (∀ calls, lexer.answer calls = source.tokenize.tokens[calls]?) ∧
    source.tokenize.tokens.length ≤ source.glyphs.length ∧
    ∀ calls, lexer.answer calls = none → (lexer.afterCalls (calls + 1)).rest = [] ∧
      ∀ more, calls ≤ more → lexer.answer more = none ∧
        (lexer.afterCalls (more + 1)).warnings = (lexer.afterCalls (calls + 1)).warnings := by
  intro lexer
  refine ⟨exists_answersAfter, fun _ reachable => reachable.sound.next_complete,
    fun _ _ => exists_taken rfl, answer_eq_getElem? rfl, length_tokens_le rfl, ?_⟩
  intro calls nothing
  have comes := comesTo_answer (rfl : lexer.state = .start) calls
  rw [nothing] at comes
  cases comes with
  | ended _ spent =>
    refine ⟨spent.2, ?_⟩
    intro more notBefore
    rcases Nat.eq_or_lt_of_le notBefore with rfl | later
    · exact ⟨nothing, rfl⟩
    · obtain ⟨further, rfl⟩ := Nat.exists_eq_add_of_le later
      obtain ⟨-, -, nothingFurther⟩ := spent.afterCalls further
      obtain ⟨-, silent, -⟩ := spent.afterCalls (further + 1)
      rw [← afterCalls_add] at silent
      rw [answer, ← afterCalls_add] at nothingFurther
      exact ⟨nothingFurther, silent⟩

/-- A word, a sign that is dropped, and the same sign in a comment that ends the text. -/
def trailing : Source := .ofText "" "a $//$"

theorem calls_exhaust_trailing :
    let lexer := ofSource trailing
    let inWord := lexer.goOn (.word ['a']) none
    Reachable trailing inWord ∧ inWord.lex.1 = some (.identifier "a") ∧
      (∃ located, inWord.next.1 = some located ∧ located.val = .identifier "a") ∧
      (∃ token, lexer.answer 0 = some token) ∧
      (∃ taken, taken ≠ [] ∧ lexer.rest = taken ++ (lexer.afterCalls 1).rest) ∧
      lexer.answer 1 = none ∧ (lexer.afterCalls 2).rest = [] ∧
      (lexer.afterCalls 2).warnings.length = 1 ∧ lexer.answer 7 = none ∧
      (lexer.afterCalls 8).warnings = (lexer.afterCalls 2).warnings := by
  intro lexer inWord
  obtain ⟨-, states, taken, -, -, ends⟩ := calls_exhaust_source trailing
  have begins : LexState.round .start lexer.rest = .goesOn (.word ['a']) none := by rfl
  have reachable : Reachable trailing inWord := .round .new begins
  have recognized : inWord.lex.1 = some (.identifier "a") := by decide +kernel
  have first : lexer.answer 0 = some ⟨.identifier "a", ⟨⟨1, 1⟩, ⟨1, 2⟩⟩⟩ := by decide +kernel
  have nothing : lexer.answer 1 = none := by decide +kernel
  have warned : (lexer.afterCalls 2).warnings.length = 1 := by decide +kernel
  obtain ⟨spent, silent⟩ := ends 1 nothing
  obtain ⟨nothingLater, same⟩ := silent 7 (by decide)
  exact ⟨reachable, recognized, (states inWord reachable).1 _ recognized, ⟨_, first⟩,
    taken 0 _ first, nothing, spent, warned, nothingLater, same⟩

end Lexer

end TaskScript
