import Mathlib.Data.List.Basic
import TaskScript.Proofs.Lexer.Longest

/-!
# Segments that fit are those of the cut

Cutting gives segments that fit where they stand. This is the converse: segments that fit, one behind
the other, are what their characters are cut into. So to know how a text is read it is enough to know
segments that fit in it, and what changes a text and leaves its segments fitting does not change how
it is read.

* `isWordChar_of_isBlank`: no blank continues a word.
* `Token.IsLexeme`: the tokens that can be read from their own texts.
* `Segment.first_of_fits`: a segment that fits is cut off as a whole.
* `Segment.cut_eq_of_fits`: segments that fit are those of the cut.
* `Segment.cut_map`: a change of segments that still fit is a change of what is cut.
* `Segment.Fits.transfer`: a segment still fits if what follows it begins with no more of a lexeme
  than before.
-/

namespace TaskScript

/-! ## Blanks and words -/

theorem CharSet.contains_eq_false_of_apart {a b : CharSet}
    (apart : ∀ r ∈ a.ranges, ∀ q ∈ b.ranges, r.2 < q.1 ∨ q.2 < r.1) {c : Char}
    (inside : a.contains c = true) : b.contains c = false := by
  rw [contains, List.any_eq_true] at inside
  obtain ⟨r, isRange, within⟩ := inside
  rw [Bool.and_eq_true, decide_eq_true_iff, decide_eq_true_iff] at within
  rw [contains, List.any_eq_false]
  intro q isOther both
  rw [Bool.and_eq_true, decide_eq_true_iff, decide_eq_true_iff] at both
  have := apart r isRange q isOther
  omega

theorem blanks_apart_letters : ∀ r ∈ beyondAsciiBlanks.ranges, ∀ q ∈ beyondAsciiLetters.ranges,
    r.2 < q.1 ∨ q.2 < r.1 := by decide +kernel

theorem blanks_apart_numbers : ∀ r ∈ beyondAsciiBlanks.ranges, ∀ q ∈ beyondAsciiNumbers.ranges,
    r.2 < q.1 ∨ q.2 < r.1 := by decide +kernel

theorem isAlpha_iff {c : Char} :
    c.isAlpha = true ↔ (65 ≤ c.toNat ∧ c.toNat ≤ 90) ∨ (97 ≤ c.toNat ∧ c.toNat ≤ 122) := by
  show (decide (65 ≤ c.val ∧ c.val ≤ 90) ||
    (decide (97 ≤ c.val) && decide (c.val ≤ 122))) = true ↔ _
  simp only [Bool.or_eq_true, Bool.and_eq_true, decide_eq_true_eq, UInt32.le_iff_toNat_le]
  exact Iff.rfl

/-- Below `0x80` a word is continued by letters, digits and the low line. -/
theorem isWordChar_iff_of_isAscii {c : Char} (ascii : isAscii c = true) :
    isWordChar c = true ↔ (((65 ≤ c.toNat ∧ c.toNat ≤ 90) ∨ (97 ≤ c.toNat ∧ c.toNat ≤ 122)) ∨
      (48 ≤ c.toNat ∧ c.toNat ≤ 57)) ∨ c = '_' := by
  rw [isWordChar, isAlphabetic_of_isAscii ascii, isNumeric_of_isAscii ascii, Bool.or_eq_true,
    Bool.or_eq_true, isAlpha_iff, isDigit_iff, decide_eq_true_iff]

/-- No blank continues a word. -/
theorem isWordChar_of_isBlank {c : Char} (blank : isBlank c = true) : isWordChar c = false := by
  cases ascii : isAscii c with
  | true =>
    rw [isBlank_of_isAscii ascii, Bool.or_eq_true, Bool.and_eq_true, decide_eq_true_iff,
      decide_eq_true_iff, decide_eq_true_iff] at blank
    have low : c.toNat ≤ 32 := by
      rcases blank with rfl | ⟨-, below⟩
      · decide
      · exact Nat.le_trans below (by decide)
    refine Bool.eq_false_iff.mpr fun continues => ?_
    rcases (isWordChar_iff_of_isAscii ascii).mp continues with ((upper | lower) | digit) | rfl
    · omega
    · omega
    · omega
    · exact absurd low (by decide)
  | false =>
    have inTable : beyondAsciiBlanks.contains c = true := by simpa [isBlank, ascii] using blank
    have noLetter := CharSet.contains_eq_false_of_apart blanks_apart_letters inTable
    have noNumber := CharSet.contains_eq_false_of_apart blanks_apart_numbers inTable
    have noLine : c ≠ '_' := by
      rintro rfl
      cases ascii
    simp [isWordChar, isAlphabetic, isNumeric, ascii, noLetter, noNumber, noLine]

/-- No sign continues a word. -/
theorem no_sign_of_isWordChar {c : Char} (continues : isWordChar c = true) :
    isOperatorSign c = false ∧ isPunctuationSign c = false ∧ c ≠ '/' := by
  have signs : ['+', '-', '*', '=', '<', '>', '(', ')', '\x7b', '\x7d', ';', ':', ',', '/'].all
      (!isWordChar ·) = true := by decide
  have noSign : c ∉ ['+', '-', '*', '=', '<', '>', '(', ')', '\x7b', '\x7d', ';', ':', ',', '/'] := by
    intro sign
    have outside := List.all_eq_true.mp signs c sign
    rw [continues] at outside
    cases outside
  simp only [List.mem_cons, List.not_mem_nil, or_false, not_or] at noSign
  simp [isOperatorSign, isPunctuationSign, noSign]

/-- A digit begins no word. -/
theorem isWordStart_of_isDigit {c : Char} (digit : c.isDigit = true) : isWordStart c = false := by
  refine Bool.eq_false_iff.mpr fun start => ?_
  rw [isWordStart, isAlphabetic_of_isAscii (isAscii_of_isDigit digit), Bool.or_eq_true,
    isAlpha_iff, decide_eq_true_iff] at start
  rw [isDigit_iff] at digit
  rcases start with (upper | lower) | rfl
  · omega
  · omega
  · exact absurd digit (by decide)

theorem isBlank_of_isWordChar {c : Char} (continues : isWordChar c = true) : isBlank c = false := by
  refine Bool.eq_false_iff.mpr fun blank => ?_
  rw [isWordChar_of_isBlank blank] at continues
  cases continues

namespace Segment

/-! ## Segments by their first characters -/

variable {glyph : Glyph} (rest : List Glyph)

theorem first_of_blank (blank : isBlank glyph.val = true) :
    first glyph rest = (.blank glyph, rest) := by
  simp [first, blank]

theorem first_of_isWordStart (start : isWordStart glyph.val = true) :
    first glyph rest =
      (.lexeme glyph (splitWord rest).1 (.ofWord (textOf (glyph :: (splitWord rest).1))),
        (splitWord rest).2) := by
  have continues := isWordChar_of_isWordStart start
  obtain ⟨noOperator, noPunctuation, noSlash⟩ := no_sign_of_isWordChar continues
  simp [first, isBlank_of_isWordChar continues, noOperator, noPunctuation, noSlash, start]

theorem first_of_isDigit (digit : glyph.val.isDigit = true) :
    first glyph rest =
      (.lexeme glyph (splitNumber rest).1 (.number (textOf (glyph :: (splitNumber rest).1))),
        (splitNumber rest).2) := by
  have continues := isWordChar_of_isDigit digit
  obtain ⟨noOperator, noPunctuation, noSlash⟩ := no_sign_of_isWordChar continues
  simp [first, isBlank_of_isWordChar continues, noOperator, noPunctuation, noSlash,
    isWordStart_of_isDigit digit, digit]

theorem glyph_of_sign {more : List Glyph} {sign : Char} (spelled : chars (glyph :: more) = [sign]) :
    glyph.val = sign ∧ more = [] := by
  obtain ⟨same, none⟩ := List.cons.inj spelled
  exact ⟨same, List.map_eq_nil_iff.mp none⟩

theorem first_of_isOperatorSign (sign : isOperatorSign glyph.val = true) :
    first glyph rest = (.lexeme glyph [] (.operator glyph.val), rest) := by
  have signs : ['+', '-', '*', '=', '<', '>'].all (!isBlank ·) = true := by decide
  have noBlank := List.all_eq_true.mp signs _ (List.contains_iff_mem.mp sign)
  rw [Bool.not_eq_true'] at noBlank
  simp [first, noBlank, sign]

theorem first_of_isPunctuationSign (sign : isPunctuationSign glyph.val = true) :
    first glyph rest = (.lexeme glyph [] (.punctuation glyph.val), rest) := by
  have signs : ['(', ')', '\x7b', '\x7d', ';', ':', ','].all
      (fun c => !isBlank c && !isOperatorSign c) = true := by decide
  have others := List.all_eq_true.mp signs _ (List.contains_iff_mem.mp sign)
  rw [Bool.and_eq_true, Bool.not_eq_true', Bool.not_eq_true'] at others
  simp [first, others, sign]

theorem first_of_slash (slash : glyph.val = '/') : first glyph rest = ofSlash glyph rest := by
  have noBlank : isBlank '/' = false := by decide
  have noOperator : isOperatorSign '/' = false := by decide
  have noPunctuation : isPunctuationSign '/' = false := by decide
  simp [first, slash, noBlank, noOperator, noPunctuation]

end Segment

/-! ## Where lexemes end -/

namespace LexemeClass

theorem not_spells_nil (kind : LexemeClass) : ¬ kind.Spells [] := by
  cases kind <;> simp [Spells]

/-- No blank stands in a lexeme. -/
theorem Spells.blank_notMem {kind : LexemeClass} {text : List Char} (spells : kind.Spells text)
    {c : Char} (blank : isBlank c = true) : c ∉ text := by
  have signs : ['.', '+', '-', '*', '/', '=', '<', '>', '(', ')', '\x7b', '\x7d', ';', ':', ','].all
      (!isBlank ·) = true := by decide
  refine notMem_of_spells spells (isWordChar_of_isBlank blank) ?_
  intro sign
  have noBlank := List.all_eq_true.mp signs c sign
  rw [blank] at noBlank
  cases noBlank

/-- Words and numbers go on with what continues a word. -/
theorem Spells.snoc {kind : LexemeClass} {text : List Char} (spells : kind.Spells text)
    (grows : kind = word ∨ kind = number) {c : Char} (continues : isWordChar c = true) :
    kind.Spells (text ++ [c]) := by
  have last : ∀ d ∈ [c], isWordChar d = true := List.forall_mem_singleton.mpr continues
  rcases grows with rfl | rfl
  · obtain ⟨first, more, rfl, start, continuesMore⟩ := spells
    exact ⟨first, more ++ [c], rfl, start, List.forall_mem_append.mpr ⟨continuesMore, last⟩⟩
  · obtain ⟨first, whole, fraction, rfl, digit, continuesWhole, isFraction⟩ := spells
    rcases isFraction with rfl | ⟨second, more, rfl, isDigit, continuesMore⟩
    · refine ⟨first, whole ++ [c], [], by simp, digit, ?_, .inl rfl⟩
      exact List.forall_mem_append.mpr ⟨continuesWhole, last⟩
    · refine ⟨first, whole, '.' :: second :: (more ++ [c]), by simp, digit, continuesWhole, ?_⟩
      exact .inr ⟨second, _, rfl, isDigit, List.forall_mem_append.mpr ⟨continuesMore, last⟩⟩

/-- A word or a number that is longest ends where nothing continues a word. -/
theorem Longest.stops {kind : LexemeClass} {text following : List Char}
    (longest : kind.Longest text following) (grows : kind = word ∨ kind = number) :
    Stops following := by
  intro c head
  rw [Bool.eq_false_iff]
  intro continues
  obtain ⟨rest, rfl⟩ := List.head?_eq_some_iff.mp head
  have none := longest.2 [c] rest rfl (longest.1.snoc grows continues)
  exact absurd none (List.cons_ne_nil c [])

/-- A number that is longest and has no fraction is not followed by one. -/
theorem Longest.no_fraction {first : Char} {whole following : List Char}
    (longest : number.Longest (first :: whole) following)
    (continues : ∀ c ∈ whole, isWordChar c = true) :
    ∀ digit more, following = '.' :: digit :: more → digit.isDigit = false := by
  rintro digit more rfl
  rw [Bool.eq_false_iff]
  intro isDigit
  have extended : number.Spells (first :: whole ++ ['.', digit]) := by
    obtain ⟨_, _, _, same, begins, -, -⟩ := longest.1
    obtain ⟨rfl, -⟩ := List.cons.inj same
    exact ⟨first, whole, ['.', digit], rfl, begins, continues, .inr ⟨digit, [], rfl, isDigit, by simp⟩⟩
  exact absurd (longest.2 _ more rfl extended) (List.cons_ne_nil _ _)

/-- A blank ends every lexeme. -/
theorem Spells.longest_before_blank {kind : LexemeClass} {text : List Char}
    (spells : kind.Spells text) {c : Char} (blank : isBlank c = true) (rest : List Char) :
    kind.Longest text (c :: rest) := by
  refine ⟨spells, ?_⟩
  intro more after split extended
  cases more with
  | nil => rfl
  | cons d more =>
    obtain ⟨rfl, -⟩ := List.cons.inj split
    have within : c ∈ text ++ c :: more := List.mem_append_right text List.mem_cons_self
    exact absurd within (extended.blank_notMem blank)

end LexemeClass

namespace Segment

variable {more following : List Glyph}

theorem splitWord_of_stops (continues : ∀ c ∈ chars more, isWordChar c = true)
    (stops : LexemeClass.Stops (chars following)) :
    splitWord (more ++ following) = (more, following) := by
  induction more with
  | nil =>
    cases following with
    | nil => rfl
    | cons glyph following =>
      have stopped : isWordChar glyph.val = false := stops glyph.val rfl
      exact splitWord_cons_of_not (by simp [stopped]) following
  | cons glyph more ih =>
    rw [chars, List.map_cons, List.forall_mem_cons] at continues
    rw [List.cons_append, splitWord_cons_of_isWordChar continues.1, ih continues.2]

theorem splitNumber_of_stops {whole fraction : List Char}
    (continues : ∀ c ∈ whole, isWordChar c = true) (isFraction : LexemeClass.IsFraction fraction)
    (spelled : chars more = whole ++ fraction) (stops : LexemeClass.Stops (chars following))
    (noFraction : fraction = [] → ∀ digit rest, chars following = '.' :: digit :: rest →
      digit.isDigit = false) :
    splitNumber (more ++ following) = (more, following) := by
  induction whole generalizing more with
  | nil =>
    rcases isFraction with rfl | ⟨digit, tail, rfl, isDigit, continuesTail⟩
    · obtain rfl : more = [] := List.map_eq_nil_iff.mp spelled
      cases following with
      | nil => rfl
      | cons glyph following =>
        have stopped : isWordChar glyph.val = false := stops glyph.val rfl
        refine splitNumber_cons_of_not (by simp [stopped]) ?_
        rintro ⟨point, ahead⟩
        cases following with
        | nil => cases ahead
        | cons digit following =>
          have noDigit := noFraction rfl digit.val (chars following) (by simp [chars, point])
          have isDigit : digit.val.isDigit = true := ahead
          rw [isDigit] at noDigit
          cases noDigit
    · -- The part behind the point ends where a word does.
      obtain ⟨point, more, rfl, isPoint, spelled⟩ := List.map_eq_cons_iff.mp spelled
      obtain ⟨first, more, rfl, rfl, rfl⟩ := List.map_eq_cons_iff.mp spelled
      rw [List.cons_append, List.cons_append, splitNumber_cons_of_point isPoint isDigit,
        splitWord_of_stops continuesTail stops]
  | cons c whole ih =>
    obtain ⟨glyph, more, rfl, rfl, spelledMore⟩ := List.map_eq_cons_iff.mp spelled
    rw [List.forall_mem_cons] at continues
    rw [List.cons_append, splitNumber_cons_of_isWordChar continues.1, ih continues.2 spelledMore]

theorem splitLine_of_feed (inLine : '\n' ∉ chars more)
    (feed : (chars following).head? = some '\n') :
    splitLine (more ++ following) = (more, following) := by
  induction more with
  | nil =>
    cases following with
    | nil => cases feed
    | cons glyph following => exact splitLine_cons_of_eq (Option.some.inj feed) following
  | cons glyph more ih =>
    rw [chars, List.map_cons, List.mem_cons, not_or] at inLine
    rw [List.cons_append, splitLine_cons_of_ne (Ne.symm inLine.1), ih inLine.2]

end Segment

/-! ## Tokens and their texts -/

/-- The token can be read from its own text: the text is one of its class, and if it is a word it
stands for this token. -/
def Token.IsLexeme (token : Token) : Prop :=
  token.lexemeClass.Spells token.text.toList ∧
    (token.lexemeClass = .word → ofWord token.text = token)

theorem Token.IsLexeme.text_ne_nil {token : Token} (isLexeme : token.IsLexeme) :
    token.text.toList ≠ [] := by
  intro none
  have spells := isLexeme.1
  rw [none] at spells
  exact LexemeClass.not_spells_nil token.lexemeClass spells

/-- What is read as a keyword is spelled as that keyword. -/
theorem Token.IsLexeme.eq_keyword {token : Token} {k : Keyword} (isLexeme : token.IsLexeme)
    (isKeyword : token.kind = .keyword k) : token = .keyword k := by
  have word : token.lexemeClass = .word := by rw [lexemeClass, isKeyword]
  have same := isLexeme.2 word
  have spelled : token.text = k.text := kind_ofWord.mp (by rw [same]; exact isKeyword)
  rw [← same, spelled, ofWord_text]

/-- A keyword is a word that stands for it. -/
theorem Keyword.isLexeme (k : Keyword) : (Token.keyword k).IsLexeme := by
  refine ⟨?_, fun _ => Token.ofWord_text k⟩
  cases k <;> exact ⟨_, _, rfl, by decide, List.all_eq_true.mp (by decide)⟩

namespace Segment

variable {first : Glyph} {more following : List Glyph} {token : Token}

/-- A lexeme that fits is spelled as its token. -/
theorem Fits.chars_eq_text (fits : (lexeme first more token).Fits following) :
    chars (first :: more) = token.text.toList := by
  rw [fits.1, String.toList_ofList]

/-- The token of a lexeme that fits can be read from its own text. -/
theorem Fits.isLexeme (fits : (lexeme first more token).Fits following) : token.IsLexeme := by
  refine ⟨fits.chars_eq_text ▸ fits.2.1.1, ?_⟩
  obtain ⟨-, -, keyword, -⟩ := fits
  intro isWord
  obtain ⟨kind, word⟩ := token
  cases kind with
  | keyword k =>
    obtain rfl : word = k.text := (keyword k).mp rfl
    exact Token.ofWord_text k
  | identifier =>
    -- An identifier is not spelled like a keyword.
    cases found : Keyword.ofText? word with
    | none =>
      rw [Token.ofWord, found]
      rfl
    | some k => cases (keyword k).mpr (Keyword.ofText?_eq_some.mp found)
  | number | operator | punctuation => cases isWord

/-- No blank stands in a lexeme that fits. -/
theorem Fits.blank_notMem (fits : (lexeme first more token).Fits following) {c : Char}
    (blank : isBlank c = true) : c ∉ chars (first :: more) :=
  fits.2.1.1.blank_notMem blank

/-- A dropped character is no blank. -/
theorem Fits.dropped_ne {glyph : Glyph} (fits : (dropped glyph).Fits following) {c : Char}
    (blank : isBlank c = true) : c ∉ chars [glyph] := by
  intro member
  have same : c = glyph.val := List.mem_singleton.mp member
  have notBlank : isBlank glyph.val = false := fits.1
  rw [← same, blank] at notBlank
  cases notBlank

end Segment

namespace Source

variable {source : Source}

/-- What is read from a source can be read from its own text. -/
theorem isLexeme_of_mem_tokenize {token : Located Token}
    (member : token ∈ source.tokenize.tokens) : token.val.IsLexeme := by
  obtain ⟨first, more, following, fits⟩ := exists_fits member
  exact fits.isLexeme

/-- A segment of a source is a stretch of its characters. -/
theorem glyphs_of_cut {earlier later : List Segment} {segment : Segment}
    (here : Segment.cut source.glyphs = earlier ++ segment :: later) :
    source.glyphs = earlier.flatMap Segment.glyphs ++
      (segment.glyphs ++ later.flatMap Segment.glyphs) := by
  have whole := Segment.glyphs_cut source.glyphs
  rw [here, List.flatMap_append, List.flatMap_cons] at whole
  exact whole.symm

/-- A token of a source is read from one of its segments. -/
theorem exists_lexeme {token : Located Token} (member : token ∈ source.tokenize.tokens) :
    ∃ earlier first more later,
      Segment.cut source.glyphs = earlier ++ .lexeme first more token.val :: later ∧
        token.span = first.span.through (more.getLastD first).span := by
  rw [tokenize_eq_cut] at member
  obtain ⟨segment, isSegment, given⟩ := List.mem_filterMap.mp member
  obtain ⟨earlier, later, here⟩ := List.append_of_mem isSegment
  cases segment with
  | blank | comment | dropped => cases given
  | lexeme first more token =>
    cases given
    exact ⟨earlier, first, more, later, here, rfl⟩

/-- A warning about a source is about one of its segments. -/
theorem exists_dropped {warning : Located LexWarning}
    (member : warning ∈ source.tokenize.warnings) :
    ∃ earlier glyph later, Segment.cut source.glyphs = earlier ++ .dropped glyph :: later ∧
      warning = ⟨.badChar glyph.val, glyph.span⟩ := by
  rw [tokenize_eq_cut] at member
  obtain ⟨segment, isSegment, given⟩ := List.mem_filterMap.mp member
  obtain ⟨earlier, later, here⟩ := List.append_of_mem isSegment
  cases segment with
  | blank | comment | lexeme => cases given
  | dropped glyph =>
    cases given
    exact ⟨earlier, glyph, later, here, rfl⟩

end Source

/-! ## Segments that fit -/

namespace Segment

variable {following : List Glyph}

/-- A longest lexeme is cut off as a whole. -/
theorem first_of_lexeme {token : Token} (isLexeme : token.IsLexeme) {glyph : Glyph}
    {more : List Glyph} (spelled : chars (glyph :: more) = token.text.toList)
    (longest : token.lexemeClass.Longest (chars (glyph :: more)) (chars following))
    (alone : token = .operator '/' → (chars following).head? ≠ some '/') :
    first glyph (more ++ following) = (.lexeme glyph more token, following) := by
  have text : textOf (glyph :: more) = token.text := by
    rw [textOf, ← chars, spelled, String.ofList_toList]
  have spells := longest.1
  obtain ⟨kind, written⟩ := token
  cases kind with
  | keyword | identifier =>
    have word := isLexeme.2 rfl
    obtain ⟨c, tail, split, start, continues⟩ := spells
    obtain ⟨rfl, rfl⟩ := List.cons.inj split
    rw [first_of_isWordStart _ start, splitWord_of_stops continues (longest.stops (.inl rfl)), text,
      word]
  | number =>
    obtain ⟨c, whole, fraction, split, digit, continues, isFraction⟩ := spells
    obtain ⟨rfl, spelledMore⟩ := List.cons.inj split
    have noFraction : fraction = [] → ∀ digit rest, chars following = '.' :: digit :: rest →
        digit.isDigit = false := by
      rintro rfl
      rw [split, List.append_nil] at longest
      exact longest.no_fraction continues
    rw [first_of_isDigit _ digit, splitNumber_of_stops continues isFraction spelledMore
      (longest.stops (.inr rfl)) noFraction, text]
    rfl
  | operator =>
    obtain ⟨sign, isSign, split⟩ := spells
    obtain ⟨rfl, rfl⟩ := glyph_of_sign split
    have isToken : (⟨.operator, written⟩ : Token) = .operator glyph.val := congrArg _ text.symm
    rw [isToken] at alone ⊢
    have spells : LexemeClass.operator.Spells [glyph.val] := ⟨glyph.val, isSign, rfl⟩
    rcases LexemeClass.spells_operator.mp spells with isSign | slash
    · rw [List.nil_append, first_of_isOperatorSign _ isSign]
    · rw [List.nil_append, first_of_slash _ slash, slash]
      cases following with
      | nil => rfl
      | cons next following =>
        have notSlash : next.val ≠ '/' := by
          intro again
          exact alone (congrArg _ slash) (congrArg some again)
        rw [ofSlash, if_neg notSlash]
  | punctuation =>
    obtain ⟨sign, isSign, split⟩ := spells
    obtain ⟨rfl, rfl⟩ := glyph_of_sign split
    have isToken : (⟨.punctuation, written⟩ : Token) = .punctuation glyph.val :=
      congrArg _ text.symm
    rw [List.nil_append, first_of_isPunctuationSign _ (List.contains_iff_mem.mpr isSign), isToken]

theorem first_of_comment {slash : Glyph} {more : List Glyph}
    (fits : (comment slash more).Fits following) :
    first slash (more ++ following) = (.comment slash more, following) := by
  obtain ⟨text, spelled, inLine, feed⟩ := fits
  obtain ⟨isSlash, spelledMore⟩ := List.cons.inj spelled
  obtain ⟨next, tail, rfl, again, rfl⟩ := List.map_eq_cons_iff.mp spelledMore
  rw [first_of_slash _ isSlash, List.cons_append, ofSlash, if_pos again,
    splitLine_of_feed inLine feed]

theorem first_of_dropped {glyph : Glyph} (fits : (dropped glyph).Fits following) :
    first glyph following = (.dropped glyph, following) := by
  obtain ⟨notBlank, none⟩ := fits
  -- A question of `first` that is answered with yes makes a lexeme of the character alone.
  have noLexeme : ∀ kind : LexemeClass, ¬ kind.Spells [glyph.val] :=
    fun kind => none kind [] (chars following) rfl
  have noOperator : ¬ (isOperatorSign glyph.val = true ∨ glyph.val = '/') := by
    rw [← LexemeClass.spells_operator]
    exact noLexeme .operator
  have noPunctuation : ¬ isPunctuationSign glyph.val = true := by
    intro sign
    exact noLexeme .punctuation ⟨glyph.val, List.contains_iff_mem.mp sign, rfl⟩
  have noStart : ¬ isWordStart glyph.val = true := by
    intro start
    exact noLexeme .word ⟨glyph.val, [], rfl, start, by simp⟩
  have noDigit : ¬ glyph.val.isDigit = true := by
    intro digit
    exact noLexeme .number ⟨glyph.val, [], [], rfl, digit, by simp, .inl rfl⟩
  rw [not_or] at noOperator
  simp [first, notBlank, noOperator, noPunctuation, noStart, noDigit]

/-- A segment that fits is cut off as a whole. -/
theorem first_of_fits {segment : Segment} (fits : segment.Fits following) {glyph : Glyph}
    {more : List Glyph} (begins : segment.glyphs = glyph :: more) :
    first glyph (more ++ following) = (segment, following) := by
  cases segment with
  | blank =>
    obtain ⟨rfl, rfl⟩ := List.cons.inj begins
    exact first_of_blank following fits
  | comment =>
    obtain ⟨rfl, rfl⟩ := List.cons.inj begins
    exact first_of_comment fits
  | lexeme =>
    obtain ⟨rfl, rfl⟩ := List.cons.inj begins
    exact first_of_lexeme fits.isLexeme fits.chars_eq_text fits.2.1 fits.2.2.2
  | dropped =>
    obtain ⟨rfl, rfl⟩ := List.cons.inj begins
    exact first_of_dropped fits

/-- Blanks are cut off one by one. -/
theorem cut_of_blanks {blanks : List Glyph} (all : ∀ glyph ∈ blanks, isBlank glyph.val = true)
    (following : List Glyph) : cut (blanks ++ following) = blanks.map blank ++ cut following := by
  induction blanks with
  | nil => rfl
  | cons glyph blanks ih =>
    obtain ⟨isBlank, rest⟩ := List.forall_mem_cons.mp all
    rw [List.cons_append, cut, first_of_blank _ isBlank, ih rest]
    rfl

/-- Segments that fit where they stand are those that their characters are cut into. -/
theorem cut_eq_of_fits (segments : List Segment)
    (fits : ∀ before segment after, segments = before ++ segment :: after →
      segment.Fits (after.flatMap glyphs)) :
    cut (segments.flatMap glyphs) = segments := by
  induction segments with
  | nil => simp [cut]
  | cons segment segments ih =>
    have later := ih fun before other after here => by
      exact fits (segment :: before) other after (congrArg (segment :: ·) here)
    obtain ⟨glyph, more, begins⟩ :=
      List.exists_cons_of_length_pos (glyphs_length_pos segment)
    rw [List.flatMap_cons, begins, List.cons_append, cut,
      first_of_fits (fits [] segment segments rfl) begins, later]

/-- Changing the segments of a cut along with their characters, so that they still fit, gives the cut
of the characters after the change. -/
theorem cut_map {rest : List Glyph} {change : Segment → Segment} {move : Glyph → Glyph}
    (moves : ∀ segment ∈ cut rest, (change segment).glyphs = segment.glyphs.map move)
    (fits : ∀ before segment after, cut rest = before ++ segment :: after →
      (change segment).Fits ((after.flatMap glyphs).map move)) :
    cut (rest.map move) = (cut rest).map change := by
  have moved : ∀ segments : List Segment, (∀ segment ∈ segments, segment ∈ cut rest) →
      (segments.map change).flatMap glyphs = (segments.flatMap glyphs).map move := by
    intro segments among
    rw [List.flatMap_map, List.map_flatMap]
    exact List.flatMap_congr fun segment member => moves segment (among segment member)
  have whole := cut_eq_of_fits ((cut rest).map change) ?_
  · rw [moved _ fun _ member => member, glyphs_cut] at whole
    exact whole
  · intro before segment after here
    obtain ⟨before, later, split, -, isLater⟩ := List.map_eq_append_iff.mp here
    obtain ⟨segment, after, rfl, rfl, rfl⟩ := List.map_eq_cons_iff.mp isLater
    rw [moved after fun other member => by simp [split, member]]
    exact fits before segment after split

/-- A segment still fits if what follows it begins with no more of a lexeme than before, and still
with the line feed if it did. -/
theorem Fits.transfer {segment : Segment} {other : List Glyph} (fits : segment.Fits following)
    (begins : ∀ (kind : LexemeClass) (text more rest : List Char), kind.Spells (text ++ more) →
      chars other = more ++ rest → ∃ rest, chars following = more ++ rest)
    (feed : (chars following).head? = some '\n' → (chars other).head? = some '\n') :
    segment.Fits other := by
  cases segment with
  | blank => exact fits
  | comment =>
    obtain ⟨text, spelled, inLine, head⟩ := fits
    exact ⟨text, spelled, inLine, feed head⟩
  | lexeme =>
    obtain ⟨text, longest, keyword, alone⟩ := fits
    refine ⟨text, ⟨longest.1, ?_⟩, keyword, ?_⟩
    · intro more rest split extended
      obtain ⟨rest, before⟩ := begins _ _ more rest extended split
      exact longest.2 more rest before extended
    · intro slash again
      obtain ⟨rest, split⟩ := List.head?_eq_some_iff.mp again
      obtain ⟨rest, before⟩ := begins .operator [] ['/'] rest ⟨'/', by simp, rfl⟩ split
      exact alone slash (by rw [before]; rfl)
  | dropped glyph =>
    obtain ⟨notBlank, none⟩ := fits
    refine ⟨notBlank, ?_⟩
    intro kind more rest split spells
    obtain ⟨rest, before⟩ := begins kind [glyph.val] more rest spells split
    exact none kind more rest before spells

end Segment

end TaskScript
