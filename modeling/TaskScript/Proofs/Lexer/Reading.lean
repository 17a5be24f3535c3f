import TaskScript.Proofs.Lexer.Segment

/-!
# The lexer reads segments

The machine and the cutting into segments agree: ready before a character, the machine passes over
the segment that begins there and stands ready right after it. Where the segment is a lexeme the
next answer is its token, and otherwise the next answer is the one that a machine standing after the
segment gives (`Lexer.reads_first`). All answers together are then the tokens of all segments
(`Source.tokenize_eq_cut`).
-/

namespace TaskScript

theorem isDigit_iff {c : Char} : c.isDigit = true ↔ 48 ≤ c.toNat ∧ c.toNat ≤ 57 := by
  show (decide (48 ≤ c.val) && decide (c.val ≤ 57)) = true ↔ _
  simp only [Bool.and_eq_true, decide_eq_true_eq, UInt32.le_iff_toNat_le]
  exact Iff.rfl

theorem isAscii_of_isDigit {c : Char} (digit : c.isDigit = true) : isAscii c = true := by
  rw [isDigit_iff] at digit
  simp only [isAscii, decide_eq_true_eq]
  omega

theorem isWordChar_of_isDigit {c : Char} (digit : c.isDigit = true) : isWordChar c = true := by
  simp [isWordChar, isNumeric_of_isAscii (isAscii_of_isDigit digit), digit]

theorem isWordChar_of_isWordStart {c : Char} (start : isWordStart c = true) :
    isWordChar c = true := by
  unfold isWordStart at start
  unfold isWordChar
  rw [Bool.or_right_comm, start, Bool.true_or]

theorem isWordChar_point : isWordChar '.' = false := by decide

namespace Segment

theorem splitWord_cons_of_isWordChar {glyph : Glyph} (continues : isWordChar glyph.val = true)
    (rest : List Glyph) :
    splitWord (glyph :: rest) = (glyph :: (splitWord rest).1, (splitWord rest).2) := by
  simp [splitWord, continues]

theorem splitWord_cons_of_not {glyph : Glyph} (ends : ¬ isWordChar glyph.val = true)
    (rest : List Glyph) : splitWord (glyph :: rest) = ([], glyph :: rest) := by
  simp [splitWord, ends]

theorem splitNumber_cons_of_isWordChar {glyph : Glyph} (continues : isWordChar glyph.val = true)
    (rest : List Glyph) :
    splitNumber (glyph :: rest) = (glyph :: (splitNumber rest).1, (splitNumber rest).2) := by
  unfold splitNumber
  rw [splitWord_cons_of_isWordChar continues]
  obtain ⟨whole, after⟩ := splitWord rest
  cases after with
  | nil => rfl
  | cons point after =>
    cases after with
    | nil => rfl
    | cons digit after =>
      dsimp only
      split <;> rfl

theorem splitNumber_cons_of_point {point : Glyph} (isPoint : point.val = '.') {digit : Glyph}
    (isDigit : digit.val.isDigit = true) (rest : List Glyph) :
    splitNumber (point :: digit :: rest) =
      (point :: digit :: (splitWord rest).1, (splitWord rest).2) := by
  have ends : ¬ isWordChar point.val = true := by simp [isPoint, isWordChar_point]
  simp [splitNumber, splitWord_cons_of_not ends, isPoint, isDigit]

theorem splitNumber_cons_of_not {glyph : Glyph} (ends : ¬ isWordChar glyph.val = true)
    {rest : List Glyph} (noFraction : ¬ (glyph.val = '.' ∧ rest.head?.any (·.val.isDigit) = true)) :
    splitNumber (glyph :: rest) = ([], glyph :: rest) := by
  unfold splitNumber
  rw [splitWord_cons_of_not ends]
  cases rest with
  | nil => rfl
  | cons digit rest =>
    dsimp only
    rw [if_neg (by simpa using noFraction)]

theorem splitLine_cons_of_ne {glyph : Glyph} (inLine : glyph.val ≠ '\n') (rest : List Glyph) :
    splitLine (glyph :: rest) = (glyph :: (splitLine rest).1, (splitLine rest).2) := by
  simp [splitLine, inLine]

theorem splitLine_cons_of_eq {glyph : Glyph} (feed : glyph.val = '\n') (rest : List Glyph) :
    splitLine (glyph :: rest) = ([], glyph :: rest) := by
  simp [splitLine, feed]

end Segment

namespace Lexer

open Segment

/-- The next answer is a token that starts at one span, ends at another, and leaves the characters
after it and the warnings. -/
def Gives (lexer : Lexer) (token : Token) (start last : Span) (after : List Glyph)
    (warnings : List (Located LexWarning)) : Prop :=
  ∃ state, lexer.lex = (some token, ⟨after, state, some start, some last, warnings⟩)

/-- Where no token is at hand, where the last one started does not matter. -/
theorem lex_start (rest : List Glyph) (start? last? : Option Span)
    (warnings : List (Located LexWarning)) :
    lex ⟨rest, .start, start?, last?, warnings⟩ = lex ⟨rest, .start, none, last?, warnings⟩ := by
  cases round : LexState.round .start rest with
  | gives token? =>
    have same : lex ⟨rest, .start, none, last?, warnings⟩ = _ := lex_of_gives round
    exact Eq.trans (lex_of_gives round) same.symm
  | goesOn state warning? =>
    have same : lex ⟨rest, .start, none, last?, warnings⟩ = _ := lex_of_goesOn round
    exact Eq.trans (lex_of_goesOn round) same.symm

section Token

variable {start : Span} {warnings : List (Located LexWarning)}

theorem gives_of_round {state : LexState} (inToken : state.inToken = true) {rest : List Glyph}
    {last : Span} {token : Token} (round : state.round rest = .gives (some token)) :
    Gives ⟨rest, state, some start, some last, warnings⟩ token start last rest warnings := by
  refine ⟨state, Eq.trans (lex_of_gives round) ?_⟩
  cases state with
  | start => cases inToken
  | _ => rfl

/-- A token that the machine is inside of goes on with the character ahead. -/
theorem gives_of_goesOn {state later : LexState} (inToken : state.inToken = true)
    (laterInToken : later.inToken = true) {glyph : Glyph} {rest after : List Glyph}
    {last stop : Span} {token : Token} (round : state.round (glyph :: rest) = .goesOn later none)
    (given : Gives ⟨rest, later, some start, some glyph.span, warnings⟩ token start stop after
      warnings) :
    Gives ⟨glyph :: rest, state, some start, some last, warnings⟩ token start stop after
      warnings := by
  obtain ⟨final, given⟩ := given
  refine ⟨final, Eq.trans (lex_of_goesOn round) (Eq.trans (congrArg lex ?_) given)⟩
  cases state with
  | start => cases inToken
  | _ => simp [goOn, settle, take, laterInToken]

/-- A state that carries its text and is left at the first character that does not continue a word
reads as far as `splitWord` does. The texts it may carry are those that fit. -/
theorem gives_splitWord (state : List Char → LexState) (token : List Char → Token)
    (fits : List Char → Prop) (inToken : ∀ text, (state text).inToken = true)
    (ends : ∀ text, fits text → (state text).round [] = .gives (some (token text)))
    (round : ∀ text glyph rest, fits text → (state text).round (glyph :: rest) =
      if isWordChar glyph.val then .goesOn (state (text ++ [glyph.val])) none
      else .gives (some (token text)))
    (extends_ : ∀ text c, fits text → fits (text ++ [c]))
    (rest : List Glyph) (text : List Char) (fit : fits text) (last : Glyph) :
    Gives ⟨rest, state text, some start, some last.span, warnings⟩
      (token (text ++ (splitWord rest).1.map (·.val))) start
      ((splitWord rest).1.getLastD last).span (splitWord rest).2 warnings := by
  induction rest generalizing text last with
  | nil => simpa [splitWord] using gives_of_round (inToken text) (ends text fit)
  | cons glyph rest ih =>
    have next := round text glyph rest fit
    by_cases continues : isWordChar glyph.val = true
    · rw [if_pos continues] at next
      have later := ih (text ++ [glyph.val]) (extends_ text glyph.val fit) glyph
      rw [splitWord_cons_of_isWordChar continues, List.map_cons, List.getLastD_cons]
      rw [List.append_assoc, List.singleton_append] at later
      exact gives_of_goesOn (inToken _) (inToken _) next later
    · rw [if_neg continues] at next
      rw [splitWord_cons_of_not continues, List.map_nil, List.append_nil]
      exact gives_of_round (inToken text) next

variable (start warnings)

theorem gives_word (rest : List Glyph) (text : List Char) (last : Glyph) :
    Gives ⟨rest, .word text, some start, some last.span, warnings⟩
      (.ofWord (String.ofList (text ++ (splitWord rest).1.map (·.val)))) start
      ((splitWord rest).1.getLastD last).span (splitWord rest).2 warnings :=
  gives_splitWord .word (fun text => .ofWord (String.ofList text)) (fun _ => True) (fun _ => rfl)
    (fun _ _ => rfl) (fun _ _ _ _ => rfl) (fun _ _ _ => trivial) rest text trivial last

/-- A number takes no second point. -/
theorem gives_fraction (rest : List Glyph) (text : List Char) (point : '.' ∈ text)
    (last : Glyph) :
    Gives ⟨rest, .number text, some start, some last.span, warnings⟩
      (.number (String.ofList (text ++ (splitWord rest).1.map (·.val)))) start
      ((splitWord rest).1.getLastD last).span (splitWord rest).2 warnings := by
  refine gives_splitWord .number (fun text => .number (String.ofList text)) ('.' ∈ ·)
    (fun _ => rfl) (fun _ _ => rfl) ?_ ?_ rest text point last
  · intro text glyph rest point
    simp [LexState.round, LexState.takesPoint, point]
  · intro text c point
    exact List.mem_append_left _ point

theorem gives_number (rest : List Glyph) (text : List Char) (whole : '.' ∉ text)
    (last : Glyph) :
    Gives ⟨rest, .number text, some start, some last.span, warnings⟩
      (.number (String.ofList (text ++ (splitNumber rest).1.map (·.val)))) start
      ((splitNumber rest).1.getLastD last).span (splitNumber rest).2 warnings := by
  induction rest generalizing text last with
  | nil => simpa [splitNumber, splitWord] using gives_of_round rfl rfl
  | cons glyph rest ih =>
    by_cases continues : isWordChar glyph.val = true
    · have round : LexState.round (.number text) (glyph :: rest) =
          .goesOn (.number (text ++ [glyph.val])) none := by
        simp [LexState.round, continues]
      have stillWhole : '.' ∉ text ++ [glyph.val] := by
        intro point
        rcases List.mem_append.mp point with point | point
        · exact whole point
        · rw [← List.mem_singleton.mp point, isWordChar_point] at continues
          cases continues
      have later := ih (text ++ [glyph.val]) stillWhole glyph
      rw [splitNumber_cons_of_isWordChar continues, List.map_cons, List.getLastD_cons]
      rw [List.append_assoc, List.singleton_append] at later
      exact gives_of_goesOn rfl rfl round later
    · by_cases fraction : glyph.val = '.' ∧ rest.head?.any (·.val.isDigit) = true
      · obtain ⟨point, digit⟩ := fraction
        have round : LexState.round (.number text) (glyph :: rest) =
            .goesOn (.number (text ++ [glyph.val])) none := by
          simp [LexState.round, LexState.takesPoint, point, whole, digit]
        cases rest with
        | nil => cases digit
        | cons first rest =>
          have isDigit : first.val.isDigit = true := digit
          -- The digit after the point is taken by the state that has seen the point.
          have later := gives_fraction start warnings (first :: rest) (text ++ [glyph.val])
            (by simp [point]) glyph
          rw [splitNumber_cons_of_point point isDigit, List.map_cons, List.getLastD_cons]
          rw [splitWord_cons_of_isWordChar (isWordChar_of_isDigit isDigit), List.append_assoc,
            List.singleton_append] at later
          exact gives_of_goesOn rfl rfl round later
      · have round : LexState.round (.number text) (glyph :: rest) =
            .gives (some (.number (String.ofList text))) := by
          have noPoint : LexState.takesPoint text glyph.val rest = false := by
            simpa [LexState.takesPoint, whole] using fraction
          simp [LexState.round, noPoint, continues]
        rw [splitNumber_cons_of_not continues fraction, List.map_nil, List.append_nil]
        exact gives_of_round rfl round

end Token

/-- A comment is left before the line feed, or where the characters end. -/
theorem lex_comment (rest : List Glyph) (start? last? : Option Span)
    (warnings : List (Located LexWarning)) :
    ∃ stop?, lex ⟨rest, .comment, start?, last?, warnings⟩ =
      lex ⟨(splitLine rest).2, .start, none, stop?, warnings⟩ := by
  induction rest generalizing last? with
  | nil =>
    refine ⟨last?, Eq.trans (lex_of_goesOn rfl) ?_⟩
    simpa [goOn, settle, take, splitLine] using lex_start [] start? last? warnings
  | cons glyph rest ih =>
    by_cases feed : glyph.val = '\n'
    · -- Both machines take the line feed, the one that is left as a blank.
      have left : LexState.round .comment (glyph :: rest) = .goesOn .start none := by
        simp [LexState.round, feed]
      have blank : LexState.round .start (glyph :: rest) = .goesOn .start none := by
        have first : LexState.ofFirst? '\n' = some .start := by decide
        simp [LexState.round, feed, first]
      refine ⟨last?, ?_⟩
      rw [splitLine_cons_of_eq feed]
      refine Eq.trans (lex_of_goesOn left) (Eq.trans ?_ (lex_of_goesOn blank).symm)
      simpa [goOn, settle, take, LexState.inToken] using
        lex_start rest start? (some glyph.span) warnings
    · have round : LexState.round .comment (glyph :: rest) = .goesOn .comment none := by
        simp [LexState.round, feed]
      obtain ⟨stop?, later⟩ := ih (some glyph.span)
      refine ⟨stop?, ?_⟩
      rw [splitLine_cons_of_ne feed, ← later]
      refine Eq.trans (lex_of_goesOn round) ?_
      simp [goOn, settle, take, LexState.inToken]

/-- The machine stands before some characters with no token at hand. -/
def Ready (lexer : Lexer) (rest : List Glyph) (warnings : List (Located LexWarning)) : Prop :=
  ∃ start? last?, lexer = ⟨rest, .start, start?, last?, warnings⟩

/-- The machine passes over a segment and is ready for the characters after it. Until then it has
given the token of the segment, or nothing. -/
inductive Reads (lexer : Lexer) (segment : Segment) (after : List Glyph)
    (warnings : List (Located LexWarning)) : Prop where
  | token {token : Located Token} {later : Lexer} (lexeme : segment.token? = some token)
      (silent : segment.warning? = none) (next : lexer.next = (some token, later))
      (ready : later.Ready after warnings)
  | skip {later : Lexer} (noLexeme : segment.token? = none) (same : lexer.lex = later.lex)
      (ready : later.Ready after (warnings ++ segment.warning?.toList))

/-- The first character of a segment is taken, and is where a token starts if it begins one. -/
theorem lex_first {glyph : Glyph} {state : LexState}
    (first : LexState.ofFirst? glyph.val = some state) (rest : List Glyph)
    (start? last? : Option Span) (warnings : List (Located LexWarning)) :
    lex ⟨glyph :: rest, .start, start?, last?, warnings⟩ =
      lex ⟨rest, state, if state.inToken then some glyph.span else none, some glyph.span,
        warnings⟩ := by
  have round : LexState.round .start (glyph :: rest) = .goesOn state none := by
    simp [LexState.round, first]
  refine Eq.trans (lex_of_goesOn round) ?_
  simp [goOn, settle, take]

/-- A token that begins with a character is given for the lexeme that begins there. -/
theorem reads_lexeme {glyph : Glyph} {state : LexState}
    (first : LexState.ofFirst? glyph.val = some state) (inToken : state.inToken = true)
    {rest more after : List Glyph} {token : Token} (start? last? : Option Span)
    {warnings : List (Located LexWarning)}
    (given : Gives ⟨rest, state, some glyph.span, some glyph.span, warnings⟩ token glyph.span
      (more.getLastD glyph).span after warnings) :
    Reads ⟨glyph :: rest, .start, start?, last?, warnings⟩ (.lexeme glyph more token) after
      warnings := by
  have taken := lex_first first rest start? last? warnings
  rw [if_pos inToken] at taken
  obtain ⟨final, given⟩ := given
  refine .token rfl rfl ?_ ⟨none, some (more.getLastD glyph).span, rfl⟩
  unfold next
  rw [taken, given]
  rfl

theorem reads_ofSlash {slash : Glyph} (isSlash : slash.val = '/') (rest : List Glyph)
    (start? last? : Option Span) (warnings : List (Located LexWarning)) :
    Reads ⟨slash :: rest, .start, start?, last?, warnings⟩ (ofSlash slash rest).1
      (ofSlash slash rest).2 warnings := by
  have first : LexState.ofFirst? slash.val = some .slash := by rw [isSlash]; decide
  cases rest with
  | nil => exact reads_lexeme first rfl start? last? (gives_of_round rfl rfl)
  | cons next rest =>
    rw [ofSlash]
    by_cases again : next.val = '/'
    · have round : LexState.round .slash (next :: rest) = .goesOn .comment none := by
        simp [LexState.round, again]
      obtain ⟨stop?, left⟩ := lex_comment rest (some slash.span) (some next.span) warnings
      have taken := lex_first first (next :: rest) start? last? warnings
      have commented := taken.trans (lex_of_goesOn round)
      rw [if_pos again]
      refine .skip rfl (commented.trans (Eq.trans (congrArg lex ?_) left)) ⟨none, stop?, ?_⟩
      · simp [goOn, settle, take, LexState.inToken]
      · simp [warning?]
    · have round : LexState.round .slash (next :: rest) = .gives (some (.operator '/')) := by
        simp [LexState.round, again]
      rw [if_neg again]
      exact reads_lexeme first rfl start? last? (gives_of_round rfl round)

/-- Ready before a character, the machine passes over the segment that begins there. -/
theorem reads_first {lexer : Lexer} {glyph : Glyph} {rest : List Glyph}
    {warnings : List (Located LexWarning)} (ready : lexer.Ready (glyph :: rest) warnings) :
    lexer.Reads (first glyph rest).1 (first glyph rest).2 warnings := by
  obtain ⟨start?, last?, rfl⟩ := ready
  -- The machine and `first` ask the same questions in the same order.
  unfold first
  simp only
  split
  case isTrue blank =>
    have begins : LexState.ofFirst? glyph.val = some .start := by
      simp [LexState.ofFirst?, blank]
    exact .skip rfl (lex_first begins rest start? last? warnings)
      ⟨none, some glyph.span, by simp [warning?, LexState.inToken]⟩
  case isFalse notBlank =>
  split
  case isTrue operator =>
    have begins : LexState.ofFirst? glyph.val = some (.complete (.operator glyph.val)) := by
      simp [LexState.ofFirst?, notBlank, operator]
    exact reads_lexeme begins rfl start? last? (gives_of_round rfl rfl)
  case isFalse notOperator =>
  split
  case isTrue punctuation =>
    have begins : LexState.ofFirst? glyph.val = some (.complete (.punctuation glyph.val)) := by
      simp [LexState.ofFirst?, notBlank, notOperator, punctuation]
    exact reads_lexeme begins rfl start? last? (gives_of_round rfl rfl)
  case isFalse notPunctuation =>
  split
  case isTrue slash => exact reads_ofSlash slash rest start? last? warnings
  case isFalse notSlash =>
  split
  case isTrue letter =>
    have begins : LexState.ofFirst? glyph.val = some (.word [glyph.val]) := by
      simp [LexState.ofFirst?, notBlank, notOperator, notPunctuation, notSlash, letter]
    exact reads_lexeme begins rfl start? last?
      (gives_word glyph.span warnings rest [glyph.val] glyph)
  case isFalse notLetter =>
  split
  case isTrue digit =>
    have begins : LexState.ofFirst? glyph.val = some (.number [glyph.val]) := by
      simp [LexState.ofFirst?, notBlank, notOperator, notPunctuation, notSlash, notLetter, digit]
    have whole : '.' ∉ [glyph.val] := by
      intro point
      rw [← List.mem_singleton.mp point] at digit
      cases digit
    exact reads_lexeme begins rfl start? last?
      (gives_number glyph.span warnings rest [glyph.val] whole glyph)
  case isFalse notDigit =>
    have begins : LexState.ofFirst? glyph.val = none := by
      simp [LexState.ofFirst?, notBlank, notOperator, notPunctuation, notSlash, notLetter, notDigit]
    have round : LexState.round .start (glyph :: rest) =
        .goesOn .start (some ⟨.badChar glyph.val, glyph.span⟩) := by
      simp [LexState.round, begins]
    exact .skip rfl (lex_of_goesOn round) ⟨none, some glyph.span, rfl⟩

theorem tokens_of_next_none {lexer later : Lexer} (next : lexer.next = (none, later)) :
    lexer.tokens = ([], later) := by
  rw [tokens]
  split <;> simp_all

theorem tokens_of_next {lexer later : Lexer} {token : Located Token}
    (next : lexer.next = (some token, later)) :
    lexer.tokens = (token :: later.tokens.1, later.tokens.2) := by
  rw [tokens]
  split <;> simp_all

theorem tokens_congr {lexer later : Lexer} (same : lexer.lex = later.lex) :
    lexer.tokens = later.tokens := by
  have sameNext : lexer.next = later.next := by rw [next, next, same]
  rcases given : later.next with ⟨token?, last⟩
  cases token? with
  | none => rw [tokens_of_next_none given, tokens_of_next_none (sameNext.trans given)]
  | some token => rw [tokens_of_next given, tokens_of_next (sameNext.trans given)]

/-- Ready before some characters, the machine gives the tokens of their segments and warns where
their segments do. -/
theorem Ready.tokens {lexer : Lexer} {rest : List Glyph} {warnings : List (Located LexWarning)}
    (ready : lexer.Ready rest warnings) :
    lexer.tokens.1 = (cut rest).filterMap token? ∧
      lexer.tokens.2.warnings = warnings ++ (cut rest).filterMap warning? := by
  induction rest using cut.induct generalizing lexer warnings with
  | case1 =>
    obtain ⟨start?, last?, rfl⟩ := ready
    have ended : next ⟨[], .start, start?, last?, warnings⟩ =
        (none, ⟨[], .start, none, last?, warnings⟩) := by
      unfold next
      rw [lex_of_gives rfl]
      rfl
    simp [tokens_of_next_none ended, cut]
  | case2 glyph rest ih =>
    rw [cut]
    cases reads_first ready with
    | token lexeme silent next later =>
      obtain ⟨tokens, warned⟩ := ih later
      rw [tokens_of_next next]
      exact ⟨by simp [lexeme, tokens], by simp [silent, warned]⟩
    | skip noLexeme same later =>
      obtain ⟨tokens, warned⟩ := ih later
      rw [tokens_congr same]
      refine ⟨by simp [noLexeme, tokens], ?_⟩
      rw [warned, List.append_assoc]
      cases warning : (first glyph rest).1.warning? <;> simp [warning]

end Lexer

theorem Source.tokenize_eq_cut (source : Source) :
    source.tokenize = ⟨(Segment.cut source.glyphs).filterMap Segment.token?,
      (Segment.cut source.glyphs).filterMap Segment.warning?⟩ := by
  have ready : Lexer.Ready { rest := source.glyphs } source.glyphs [] := ⟨none, none, rfl⟩
  obtain ⟨tokens, warned⟩ := ready.tokens
  simp [tokenize, tokens, warned]

end TaskScript
