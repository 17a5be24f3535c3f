import TaskScript.Log
import TaskScript.Source
import TaskScript.Text.Alphabetic
import TaskScript.Text.Blank
import TaskScript.Text.Numeric
import TaskScript.Text.Quoted
import TaskScript.Token

/-!
# The lexer

A source is read by a machine that keeps how far it has come with the token at hand and where that
token started. A round looks at the character ahead, and at a point inside a number also at the one
after it. Either the round gives an answer and takes nothing, or the machine goes on in another
state and takes the character.

* A sign is answered one round after it has been taken.
* The end of a word or a number is noticed at the first character that is not part of it.
* A comment is left without taking anything where the characters end.

So not every round takes a character. `Lexer.lex` ends because a round that takes none leaves a
comment behind, and `Lexer.tokens` ends because a token that is given has taken one.
-/

namespace TaskScript

/-- Is the character a sign that stands alone between operands? The slash is not among them, since
two of them begin a comment. -/
def isOperatorSign (c : Char) : Bool := ['+', '-', '*', '=', '<', '>'].contains c

/-- Is the character a bracket or a separator? -/
def isPunctuationSign (c : Char) : Bool :=
  ['(', ')', '\x7b', '\x7d', ';', ':', ','].contains c

/-- May the character begin a word? -/
def isWordStart (c : Char) : Bool := isAlphabetic c || c = '_'

/-- May the character continue a word or a number? -/
def isWordChar (c : Char) : Bool := isAlphabetic c || isNumeric c || c = '_'

/-- A warning about a source. -/
inductive LexWarning where
  | badChar (c : Char)
deriving DecidableEq

namespace LexWarning

/-- The text of the warning. -/
def message : LexWarning → String
  | badChar c => "Bad character " ++ quotedChar c ++ " in input stream, dropped"

end LexWarning

/-- How far the lexer has come with a token. A number and a word carry what has been read of them. -/
inductive LexState where
  | start
  | complete (token : Token)
  | slash
  | comment
  | number (text : List Char)
  | word (text : List Char)
deriving DecidableEq

/-- What a round comes to: an answer, or another state and perhaps a warning. -/
inductive LexRound where
  | gives (token? : Option Token)
  | goesOn (state : LexState) (warning? : Option (Located LexWarning))

namespace LexState

/-- Has part of a token, or of what may still become one, been read? -/
def inToken : LexState → Bool
  | start | comment => false
  | _ => true

/-- The state after a character that stands at the beginning, if the character means anything
there. -/
def ofFirst? (c : Char) : Option LexState :=
  if isBlank c then some start
  else if isOperatorSign c then some (complete (.operator c))
  else if isPunctuationSign c then some (complete (.punctuation c))
  else if c = '/' then some slash
  -- A digit beyond ASCII continues a word but begins neither a word nor a number.
  else if isWordStart c then some (word [c])
  else if c.isDigit then some (number [c])
  else none

/-- Is the character a point that belongs to a number with this text, given what follows it? -/
def takesPoint (text : List Char) (c : Char) (after : List Glyph) : Bool :=
  c = '.' && !text.contains '.' && after.head?.any (·.val.isDigit)

/-- One round, with the characters ahead. -/
def round : LexState → List Glyph → LexRound
  | start, [] => .gives none
  | start, glyph :: _ =>
    match ofFirst? glyph.val with
    | some state => .goesOn state none
    | none => .goesOn start (some ⟨.badChar glyph.val, glyph.span⟩)
  | complete token, _ => .gives (some token)
  | slash, [] => .gives (some (.operator '/'))
  | slash, glyph :: _ =>
    if glyph.val = '/' then .goesOn comment none else .gives (some (.operator '/'))
  | comment, [] => .goesOn start none
  | comment, glyph :: _ => .goesOn (if glyph.val = '\n' then start else comment) none
  | number text, [] => .gives (some (.number (String.ofList text)))
  | number text, glyph :: after =>
    if takesPoint text glyph.val after || isWordChar glyph.val then
      .goesOn (number (text ++ [glyph.val])) none
    else .gives (some (.number (String.ofList text)))
  | word text, [] => .gives (some (.ofWord (String.ofList text)))
  | word text, glyph :: _ =>
    if isWordChar glyph.val then .goesOn (word (text ++ [glyph.val])) none
    else .gives (some (.ofWord (String.ofList text)))

/-- Only what is part of a token is given as one. -/
theorem inToken_of_gives {state : LexState} {rest : List Glyph} {token : Token}
    (round : state.round rest = .gives (some token)) : state.inToken = true := by
  cases state with
  | start =>
    cases rest with
    | nil => simp [LexState.round] at round
    | cons glyph rest =>
      simp only [LexState.round] at round
      split at round <;> simp at round
  | comment => cases rest <;> simp [LexState.round] at round
  | _ => rfl

/-- With nothing ahead the machine goes on only to leave a comment. -/
theorem goesOn_nil {state later : LexState} {warning? : Option (Located LexWarning)}
    (round : state.round [] = .goesOn later warning?) : state = comment ∧ later = start := by
  cases state <;> simp [LexState.round] at round
  exact ⟨rfl, round.1.symm⟩

end LexState

/-- The machine: the characters ahead, the state, the span of the first character of the token at
hand, the span of the last character taken, and the warnings so far. -/
structure Lexer where
  rest : List Glyph
  state : LexState := .start
  start? : Option Span := none
  last? : Option Span := none
  warnings : List (Located LexWarning) := []

namespace Lexer

/-- Forgets where a token started, unless one is at hand. -/
def settle (lexer : Lexer) : Lexer :=
  match lexer.state with
  | .start => { lexer with start? := none }
  | _ => lexer

/-- Takes the character ahead, if there is one. -/
def take (lexer : Lexer) : Lexer :=
  match lexer.rest with
  | [] => lexer
  | glyph :: rest =>
    { lexer with
      rest
      start? := if lexer.state.inToken then lexer.start?.or (some glyph.span) else lexer.start?
      last? := some glyph.span }

/-- Goes on in a state. -/
def goOn (lexer : Lexer) (state : LexState) (warning? : Option (Located LexWarning)) : Lexer :=
  { lexer.settle with state, warnings := lexer.warnings ++ warning?.toList }.take

/-- Bounds the rounds up to the next answer. -/
def ahead (lexer : Lexer) : Nat :=
  2 * lexer.rest.length + match lexer.state with | .comment => 1 | _ => 0

@[simp] theorem settle_rest (lexer : Lexer) : lexer.settle.rest = lexer.rest := by
  unfold settle
  split <;> rfl

@[simp] theorem take_state (lexer : Lexer) : lexer.take.state = lexer.state := by
  unfold take
  split <;> rfl

@[simp] theorem take_rest (lexer : Lexer) : lexer.take.rest = lexer.rest.tail := by
  unfold take
  split
  · next h => rw [h]; rfl
  · next h => rw [h]; rfl

section GoOn

variable (lexer : Lexer) (state : LexState) (warning? : Option (Located LexWarning))

@[simp] theorem goOn_state : (lexer.goOn state warning?).state = state := take_state _

@[simp] theorem goOn_rest : (lexer.goOn state warning?).rest = lexer.rest.tail := by
  simp [goOn]

end GoOn

theorem ahead_goOn_lt {lexer : Lexer} {state : LexState} {warning? : Option (Located LexWarning)}
    (round : lexer.state.round lexer.rest = .goesOn state warning?) :
    (lexer.goOn state warning?).ahead < lexer.ahead := by
  simp only [ahead, goOn_rest, goOn_state]
  cases rest : lexer.rest with
  | nil =>
    rw [rest] at round
    obtain ⟨now, rfl⟩ := LexState.goesOn_nil round
    simp [now]
  | cons glyph rest =>
    rw [List.tail_cons, List.length_cons]
    split <;> split <;> omega

/-- Goes on up to an answer. -/
def lex (lexer : Lexer) : Option Token × Lexer :=
  match _ : lexer.state.round lexer.rest with
  | .gives token? => (token?, lexer.settle)
  | .goesOn state warning? => lex (lexer.goOn state warning?)
termination_by lexer.ahead
decreasing_by exact ahead_goOn_lt ‹_›

theorem lex_of_gives {lexer : Lexer} {token? : Option Token}
    (round : lexer.state.round lexer.rest = .gives token?) : lexer.lex = (token?, lexer.settle) := by
  rw [lex]
  split <;> simp_all

theorem lex_of_goesOn {lexer : Lexer} {state : LexState}
    {warning? : Option (Located LexWarning)}
    (round : lexer.state.round lexer.rest = .goesOn state warning?) :
    lexer.lex = (lexer.goOn state warning?).lex := by
  rw [lex]
  split <;> simp_all

/-- The next token, with its span, and the machine ready for the one after it. -/
def next (lexer : Lexer) : Option (Located Token) × Lexer :=
  match lexer.lex with
  | (none, lexer) => (none, lexer)
  | (some token, lexer) =>
    match lexer.start? with
    | none => (none, { lexer with state := .start })
    | some start =>
      (some ⟨token, lexer.last?.elim start start.through⟩,
        { lexer with state := .start, start? := none })

/-- A token that is given has taken a character, unless part of it had been read before. -/
theorem lex_rest_length {lexer : Lexer} {token : Token} (given : lexer.lex.1 = some token) :
    lexer.lex.2.rest.length + (if lexer.state.inToken then 0 else 1) ≤ lexer.rest.length := by
  induction lexer using lex.induct with
  | case1 lexer token? round =>
    rw [lex_of_gives round] at given ⊢
    subst given
    simp [LexState.inToken_of_gives round]
  | case2 lexer state warning? round ih =>
    rw [lex_of_goesOn round] at given ⊢
    have later := ih given
    rw [goOn_rest, goOn_state] at later
    cases rest : lexer.rest with
    | nil =>
      rw [rest] at round later
      obtain ⟨-, rfl⟩ := LexState.goesOn_nil round
      simp [LexState.inToken] at later
    | cons glyph rest =>
      rw [rest, List.tail_cons] at later
      rw [List.length_cons]
      split at later <;> split <;> omega

/-- Bounds the tokens still to come. -/
def tokensAhead (lexer : Lexer) : Nat :=
  2 * lexer.rest.length + if lexer.state.inToken then 1 else 0

theorem tokensAhead_next_lt {lexer later : Lexer} {token : Located Token}
    (next : lexer.next = (some token, later)) : later.tokensAhead < lexer.tokensAhead := by
  unfold Lexer.next at next
  split at next
  · simp at next
  · next token last given =>
    have taken := lex_rest_length (congrArg Prod.fst given)
    rw [given] at taken
    split at next
    · simp at next
    · obtain ⟨-, rfl⟩ := Prod.mk.inj next
      show 2 * last.rest.length < 2 * lexer.rest.length + if lexer.state.inToken then 1 else 0
      cases part : lexer.state.inToken with
      | true =>
        rw [part, if_pos rfl] at taken
        rw [if_pos rfl]
        exact Nat.lt_succ_of_le (Nat.mul_le_mul_left 2 taken)
      | false =>
        rw [part, if_neg Bool.false_ne_true] at taken
        rw [if_neg Bool.false_ne_true]
        exact Nat.mul_lt_mul_of_pos_left taken (by decide)

/-- All tokens up to the first answer that is none, and the machine after it. -/
def tokens (lexer : Lexer) : List (Located Token) × Lexer :=
  match _ : lexer.next with
  | (none, lexer) => ([], lexer)
  | (some token, later) =>
    let (tokens, lexer) := tokens later
    (token :: tokens, lexer)
termination_by lexer.tokensAhead
decreasing_by exact tokensAhead_next_lt ‹_›

end Lexer

/-- The tokens of a source, and the characters that belong to none of them. -/
structure Tokens where
  tokens : List (Located Token)
  warnings : List (Located LexWarning)
deriving DecidableEq

/-- The tokens and the warnings of a source. -/
def Source.tokenize (source : Source) : Tokens :=
  let (tokens, lexer) := Lexer.tokens { rest := source.glyphs }
  ⟨tokens, lexer.warnings⟩

namespace Tokens

/-- What reading the source reports: each character dropped, and then the counts. -/
def log (name : String) (read : Tokens) : List LogEntry :=
  read.warnings.map dropping ++ [⟨.debug, .lexing, summary⟩]
where
  /-- The entry for one character. -/
  dropping (warning : Located LexWarning) : LogEntry :=
    match warning.val with
    | .badChar c => ⟨.debug, .lexing, warning.span.text name ++ ": dropping " ++ quotedChar c⟩
  /-- The counts. -/
  summary : String :=
    name ++ ": " ++ Numeral.decimal read.tokens.length ++ " token(s), "
      ++ Numeral.decimal read.warnings.length ++ " dropped character(s)"

end Tokens

end TaskScript
