import Mathlib.Data.List.TakeWhile
import TaskScript.Proofs.Lexer.Reading

/-!
# Lexemes are longest matches

The classes of lexemes are sets of texts. A segment fits where it stands if it is what its kind
says: a lexeme is a text of its class that no longer text of the class extends, a comment reaches up
to the line feed, and a character is dropped only where no lexeme begins. The main result is that
tokenizing a source cuts its characters into segments that fit, gives the lexemes as tokens and
warns about the characters that are dropped.
-/

namespace TaskScript

/-- The classes of lexemes. -/
inductive LexemeClass where
  | word
  | number
  | operator
  | punctuation
deriving DecidableEq

namespace LexemeClass

/-- What may follow the whole part of a number: nothing, or a point with a digit right after it and
then what continues a word. -/
def IsFraction (text : List Char) : Prop :=
  text = [] ∨ ∃ digit more, text = '.' :: digit :: more ∧ digit.isDigit = true ∧
    ∀ c ∈ more, isWordChar c = true

/-- The texts of a class. -/
def Spells : LexemeClass → List Char → Prop
  | word, text =>
    ∃ first more, text = first :: more ∧ isWordStart first = true ∧ ∀ c ∈ more, isWordChar c = true
  | number, text =>
    ∃ first whole fraction, text = first :: (whole ++ fraction) ∧ first.isDigit = true ∧
      (∀ c ∈ whole, isWordChar c = true) ∧ IsFraction fraction
  | operator, text => ∃ sign ∈ ['+', '-', '*', '/', '=', '<', '>'], text = [sign]
  | punctuation, text => ∃ sign ∈ ['(', ')', '\x7b', '\x7d', ';', ':', ','], text = [sign]

/-- A text of the class, before other characters, that cannot be extended by some of them to a
longer text of the class. -/
def Longest (kind : LexemeClass) (text following : List Char) : Prop :=
  kind.Spells text ∧
    ∀ more rest, following = more ++ rest → kind.Spells (text ++ more) → more = []

/-- The characters that follow begin with none that continues a word. -/
def Stops (following : List Char) : Prop := ∀ c ∈ following.head?, isWordChar c = false

theorem stops_dropWhile (text : List Char) : Stops (text.dropWhile isWordChar) := by
  intro c head
  have stopped := List.head?_dropWhile_not isWordChar text
  rw [Option.mem_def.mp head] at stopped
  exact stopped

/-- Nothing that follows continues a word. -/
theorem Stops.eq_nil {following more rest : List Char} (stops : Stops following)
    (split : following = more ++ rest) (continues : ∀ c ∈ more, isWordChar c = true) :
    more = [] := by
  cases more with
  | nil => rfl
  | cons c more =>
    have stopped : isWordChar c = false := stops c (by simp [split])
    rw [continues c List.mem_cons_self] at stopped
    cases stopped

theorem Stops.dropWhile_eq {text rest following : List Char} (stops : Stops following)
    (split : following = text ++ rest) : text.dropWhile isWordChar = text := by
  cases text with
  | nil => rfl
  | cons c text =>
    have stopped : isWordChar c = false := stops c (by simp [split])
    exact List.dropWhile_cons_of_neg (by simp [stopped])

theorem IsFraction.dropWhile_eq {text : List Char} (fraction : IsFraction text) :
    text.dropWhile isWordChar = text := by
  rcases fraction with rfl | ⟨digit, more, rfl, -, -⟩
  · rfl
  · exact List.dropWhile_cons_of_neg (by simp [isWordChar_point])

/-- Where a number ends its whole part is where a word would end. -/
theorem isFraction_of_spells {first : Char} {text : List Char}
    (spells : number.Spells (first :: text)) : IsFraction (text.dropWhile isWordChar) := by
  obtain ⟨first', whole, fraction, split, -, continues, isFraction⟩ := spells
  obtain ⟨-, rfl⟩ := List.cons.inj split
  rw [List.dropWhile_append_of_pos continues, isFraction.dropWhile_eq]
  exact isFraction

/-- The operators are the signs that stand alone and the slash. -/
theorem spells_operator {sign : Char} :
    operator.Spells [sign] ↔ isOperatorSign sign = true ∨ sign = '/' := by
  simp only [Spells, isOperatorSign, List.contains_iff_mem, List.mem_cons, List.not_mem_nil]
  grind

/-- What stands in a lexeme continues a word, is the point of a number, or is a sign that is the
whole of it. -/
theorem mem_of_spells {kind : LexemeClass} {text : List Char} (spells : kind.Spells text) {c : Char}
    (member : c ∈ text) :
    isWordChar c = true ∨ c = '.' ∨ text = [c] ∧
      c ∈ ['+', '-', '*', '/', '=', '<', '>', '(', ')', '\x7b', '\x7d', ';', ':', ','] := by
  cases kind with
  | word =>
    obtain ⟨first, more, rfl, start, continues⟩ := spells
    rcases List.mem_cons.mp member with rfl | later
    · exact .inl (isWordChar_of_isWordStart start)
    · exact .inl (continues c later)
  | number =>
    obtain ⟨first, whole, fraction, rfl, digit, continues, isFraction⟩ := spells
    rcases List.mem_cons.mp member with rfl | later
    · exact .inl (isWordChar_of_isDigit digit)
    rcases List.mem_append.mp later with inWhole | inFraction
    · exact .inl (continues c inWhole)
    rcases isFraction with rfl | ⟨second, more, rfl, secondDigit, continuesMore⟩
    · cases inFraction
    rcases List.mem_cons.mp inFraction with point | inDigits
    · exact .inr (.inl point)
    rcases List.mem_cons.mp inDigits with rfl | inMore
    · exact .inl (isWordChar_of_isDigit secondDigit)
    · exact .inl (continuesMore c inMore)
  | operator =>
    obtain ⟨sign, isSign, rfl⟩ := spells
    obtain rfl : c = sign := List.mem_singleton.mp member
    exact .inr (.inr ⟨rfl, List.mem_append_left _ isSign⟩)
  | punctuation =>
    obtain ⟨sign, isSign, rfl⟩ := spells
    obtain rfl : c = sign := List.mem_singleton.mp member
    exact .inr (.inr ⟨rfl, List.mem_append_right ['+', '-', '*', '/', '=', '<', '>'] isSign⟩)

/-- A character that neither continues a word nor is a sign stands in no lexeme. -/
theorem notMem_of_spells {kind : LexemeClass} {text : List Char} (spells : kind.Spells text)
    {c : Char} (noWord : isWordChar c = false)
    (noSign : c ∉ ['.', '+', '-', '*', '/', '=', '<', '>', '(', ')', '\x7b', '\x7d', ';', ':',
      ',']) : c ∉ text := by
  intro member
  rcases mem_of_spells spells member with continues | point | ⟨-, sign⟩
  · rw [noWord] at continues
    cases continues
  · exact noSign (List.mem_cons.mpr (.inl point))
  · exact noSign (List.mem_cons_of_mem _ sign)

theorem longest_word {first : Char} (start : isWordStart first = true) (rest : List Char) :
    word.Longest (first :: rest.takeWhile isWordChar) (rest.dropWhile isWordChar) := by
  refine ⟨⟨first, _, rfl, start, fun c taken => List.mem_takeWhile_imp taken⟩, ?_⟩
  intro more after split spells
  obtain ⟨first', text, same, -, continues⟩ := spells
  obtain ⟨-, rfl⟩ := List.cons.inj same
  exact (stops_dropWhile rest).eq_nil split
    fun c extended => continues c (List.mem_append_right _ extended)

theorem longest_number {first : Char} (digit : first.isDigit = true)
    {whole fraction following : List Char} (continues : ∀ c ∈ whole, isWordChar c = true)
    (isFraction : IsFraction fraction) (stops : Stops following)
    (noPoint : fraction = [] → ∀ digit more, following = '.' :: digit :: more →
      digit.isDigit = false) :
    number.Longest (first :: (whole ++ fraction)) following := by
  refine ⟨⟨first, whole, fraction, rfl, digit, continues, isFraction⟩, ?_⟩
  intro more rest split spells
  rw [List.cons_append] at spells
  have extended := isFraction_of_spells spells
  rw [List.append_assoc, List.dropWhile_append_of_pos continues] at extended
  rcases isFraction with rfl | ⟨second, tail, rfl, -, -⟩
  · -- A longer number would have the fraction that is missing.
    rw [List.nil_append, stops.dropWhile_eq split] at extended
    rcases extended with empty | ⟨second, tail, rfl, isDigit, -⟩
    · exact empty
    · rw [noPoint rfl second (tail ++ rest) split] at isDigit
      cases isDigit
  · -- A longer number would go on after its fraction, as a word does.
    rw [List.cons_append, List.dropWhile_cons_of_neg (by simp [isWordChar_point])] at extended
    rcases extended with empty | ⟨third, tail', same, -, all⟩
    · cases empty
    · obtain ⟨-, -, rfl⟩ : '.' = '.' ∧ second = third ∧ tail ++ more = tail' := by simpa using same
      exact stops.eq_nil split fun c extended => all c (List.mem_append_right _ extended)

/-- A sign is a whole lexeme. -/
theorem longest_sign {kind : LexemeClass} (signs : kind = operator ∨ kind = punctuation)
    {sign : Char} (spells : kind.Spells [sign]) (following : List Char) :
    kind.Longest [sign] following := by
  refine ⟨spells, ?_⟩
  intro more rest split extended
  rcases signs with rfl | rfl
  · obtain ⟨other, -, same⟩ := extended
    exact (List.cons.inj same).2
  · obtain ⟨other, -, same⟩ := extended
    exact (List.cons.inj same).2

end LexemeClass

/-- The class of lexemes that are read as the token. -/
def Token.lexemeClass (token : Token) : LexemeClass :=
  match token.kind with
  | .keyword _ | .identifier => .word
  | .number => .number
  | .operator => .operator
  | .punctuation => .punctuation

namespace Segment

/-- The characters without their places. -/
def chars (glyphs : List Glyph) : List Char := glyphs.map (·.val)

/-- Is the segment what its kind says, given the characters that follow it? -/
def Fits : Segment → List Glyph → Prop
  | blank glyph, _ => isBlank glyph.val = true
  | comment slash more, following =>
    ∃ text, chars (slash :: more) = '/' :: '/' :: text ∧ '\n' ∉ text ∧
      (chars following).head? = some '\n'
  | lexeme first more token, following =>
    token.text = String.ofList (chars (first :: more)) ∧
      token.lexemeClass.Longest (chars (first :: more)) (chars following) ∧
      (∀ k, token.kind = .keyword k ↔ token.text = k.text) ∧
      (token = .operator '/' → (chars following).head? ≠ some '/')
  | dropped glyph, following =>
    isBlank glyph.val = false ∧
      ∀ (kind : LexemeClass) (more rest : List Char), chars following = more ++ rest →
        ¬ kind.Spells (glyph.val :: more)

theorem chars_append (glyphs following : List Glyph) :
    chars (glyphs ++ following) = chars glyphs ++ chars following := List.map_append

theorem chars_splitWord_fst (rest : List Glyph) :
    chars (splitWord rest).1 = (chars rest).takeWhile isWordChar := by
  simp [chars, splitWord, List.takeWhile_map, Function.comp_def]

theorem chars_splitWord_snd (rest : List Glyph) :
    chars (splitWord rest).2 = (chars rest).dropWhile isWordChar := by
  simp [chars, splitWord, List.dropWhile_map, Function.comp_def]

end Segment

theorem Keyword.ofText?_text (k : Keyword) : ofText? k.text = some k := by cases k <;> decide

theorem Keyword.ofText?_eq_some {word : String} {k : Keyword} :
    ofText? word = some k ↔ word = k.text := by
  constructor
  · intro found
    have spelled := List.find?_some found
    exact (of_decide_eq_true spelled).symm
  · intro spelled
    rw [spelled, ofText?_text]

/-- A keyword is spelled with more than one character, and begins with none that is a digit. -/
theorem Keyword.text_spelling (k : Keyword) :
    ∃ first second more, k.text = String.ofList (first :: second :: more) ∧
      first.isDigit = false := by
  cases k <;> exact ⟨_, _, _, rfl, rfl⟩

namespace Token

theorem operator_inj {sign other : Char} (same : operator sign = operator other) :
    sign = other := by
  have texts : (String.singleton sign).toList = (String.singleton other).toList :=
    congrArg (·.text.toList) same
  simpa using texts

theorem ofWord_text (k : Keyword) : ofWord k.text = keyword k := by
  rw [ofWord, Keyword.ofText?_text]
  rfl

theorem kind_ofWord {word : String} {k : Keyword} :
    (ofWord word).kind = .keyword k ↔ word = k.text := by
  rw [← Keyword.ofText?_eq_some]
  unfold ofWord
  cases Keyword.ofText? word <;> simp

theorem lexemeClass_ofWord (word : String) : (ofWord word).lexemeClass = .word := by
  unfold ofWord lexemeClass
  cases Keyword.ofText? word with
  | none => rfl
  | some k => rfl

end Token

namespace Segment

open LexemeClass

theorem continues_splitWord (rest : List Glyph) :
    ∀ c ∈ chars (splitWord rest).1, isWordChar c = true := by
  intro c within
  rw [chars_splitWord_fst] at within
  exact List.mem_takeWhile_imp within

theorem stops_splitWord (rest : List Glyph) : Stops (chars (splitWord rest).2) := by
  rw [chars_splitWord_snd]
  exact stops_dropWhile _

theorem chars_splitNumber (rest : List Glyph) :
    ∃ whole fraction, chars (splitNumber rest).1 = whole ++ fraction ∧
      (∀ c ∈ whole, isWordChar c = true) ∧ IsFraction fraction ∧
      Stops (chars (splitNumber rest).2) ∧
      (fraction = [] → ∀ digit more, chars (splitNumber rest).2 = '.' :: digit :: more →
        digit.isDigit = false) := by
  have continues := continues_splitWord rest
  have stops := stops_splitWord rest
  unfold splitNumber
  generalize splitWord rest = split at continues stops ⊢
  obtain ⟨whole, after⟩ := split
  cases after with
  | nil => exact ⟨chars whole, [], by simp, continues, .inl rfl, stops, by simp [chars]⟩
  | cons point after =>
    cases after with
    | nil => exact ⟨chars whole, [], by simp, continues, .inl rfl, stops, by simp [chars]⟩
    | cons digit after =>
      dsimp only
      split
      case isTrue fraction =>
        obtain ⟨isPoint, isDigit⟩ := fraction
        refine ⟨chars whole, '.' :: digit.val :: chars (splitWord after).1, ?_, continues,
          .inr ⟨digit.val, _, rfl, isDigit, continues_splitWord after⟩, stops_splitWord after,
          by simp⟩
        simp [chars, isPoint]
      case isFalse noFraction =>
        refine ⟨chars whole, [], by simp, continues, .inl rfl, stops, ?_⟩
        intro _ second more same
        obtain ⟨isPoint, rfl, -⟩ : point.val = '.' ∧ digit.val = second ∧ chars after = more := by
          simpa [chars] using same
        exact Bool.eq_false_iff.mpr fun isDigit => noFraction ⟨isPoint, isDigit⟩

/-- The characters stop right after a line feed, if there are any. -/
def EndsLine (glyphs : List Glyph) : Prop := ∀ c ∈ (chars glyphs).getLast?, c = '\n'

theorem EndsLine.of_append {glyphs following : List Glyph}
    (ends : EndsLine (glyphs ++ following)) : EndsLine following := by
  intro c last
  refine ends c ?_
  rw [chars_append, List.getLast?_append, Option.mem_def.mp last]
  rfl

theorem EndsLine.feed_mem {glyph : Glyph} {rest : List Glyph} (ends : EndsLine (glyph :: rest)) :
    '\n' ∈ chars (glyph :: rest) := by
  have nonempty : chars (glyph :: rest) ≠ [] := by simp [chars]
  have last := List.getLast?_eq_some_getLast nonempty
  rw [← ends _ last]
  exact List.getLast_mem nonempty

theorem feed_notMem_splitLine (rest : List Glyph) : '\n' ∉ chars (splitLine rest).1 := by
  intro feed
  obtain ⟨glyph, within, isFeed⟩ := List.mem_map.mp feed
  have inLine := List.mem_takeWhile_imp within
  simp [isFeed] at inLine

theorem head?_splitLine {rest : List Glyph} (left : (splitLine rest).2 ≠ []) :
    (chars (splitLine rest).2).head? = some '\n' := by
  have stopped := List.head_dropWhile_not (fun glyph : Glyph => decide (glyph.val ≠ '\n')) left
  have feed : ((splitLine rest).2.head left).val = '\n' := by
    simpa [splitLine] using stopped
  rw [chars, List.head?_map, List.head?_eq_some_head left, Option.map_some, feed]

theorem fits_comment {slash next : Glyph} {rest : List Glyph} (first : slash.val = '/')
    (second : next.val = '/') (ends : EndsLine (slash :: next :: rest)) :
    Fits (comment slash (next :: (splitLine rest).1)) (splitLine rest).2 := by
  refine ⟨chars (splitLine rest).1, by simp [chars, first, second], feed_notMem_splitLine rest,
    head?_splitLine ?_⟩
  -- Were nothing left, no line feed would end the characters.
  intro nothing
  have all := splitLine_append rest
  rw [nothing, List.append_nil] at all
  have feed := ends.feed_mem
  rw [← all] at feed
  have within : '\n' ∈ '/' :: '/' :: chars (splitLine rest).1 := by
    simpa [chars, first, second] using feed
  have inLine : '\n' ∈ chars (splitLine rest).1 := by simpa using within
  exact feed_notMem_splitLine rest inLine

/-- A sign that is read as itself fits, unless it is the first of two slashes. -/
theorem fits_sign {glyph : Glyph} {following : List Glyph} {token : Token}
    (text : token.text = String.singleton glyph.val)
    (signs : token.lexemeClass = .operator ∨ token.lexemeClass = .punctuation)
    (spells : token.lexemeClass.Spells [glyph.val])
    (alone : token = .operator '/' → (chars following).head? ≠ some '/') :
    Fits (lexeme glyph [] token) following := by
  refine ⟨text, longest_sign signs spells _, ?_, alone⟩
  intro k
  constructor
  · intro keyword
    rw [Token.lexemeClass, keyword] at signs
    rcases signs with isOperator | isPunctuation
    · cases isOperator
    · cases isPunctuation
  · intro same
    obtain ⟨first, second, more, spelled, -⟩ := k.text_spelling
    have lengths := congrArg String.length (text.symm.trans (same.trans spelled))
    simp at lengths

theorem fits_ofSlash {slash : Glyph} (isSlash : slash.val = '/') {rest : List Glyph}
    (ends : EndsLine (slash :: rest)) : (ofSlash slash rest).1.Fits (ofSlash slash rest).2 := by
  have text : (Token.operator '/').text = String.singleton slash.val := by rw [isSlash]; rfl
  have spells : operator.Spells [slash.val] := spells_operator.mpr (.inr isSlash)
  cases rest with
  | nil => exact fits_sign text (.inl rfl) spells (by simp [chars, ofSlash])
  | cons next rest =>
    rw [ofSlash]
    split
    case isTrue again => exact fits_comment isSlash again ends
    case isFalse alone => exact fits_sign text (.inl rfl) spells (by simpa [chars] using alone)

theorem fits_word {glyph : Glyph} (start : isWordStart glyph.val = true) (rest : List Glyph) :
    Fits (lexeme glyph (splitWord rest).1 (.ofWord (textOf (glyph :: (splitWord rest).1))))
      (splitWord rest).2 := by
  have longest := longest_word start (chars rest)
  rw [← chars_splitWord_fst, ← chars_splitWord_snd] at longest
  have kind := Token.lexemeClass_ofWord (textOf (glyph :: (splitWord rest).1))
  refine ⟨rfl, ?_, fun k => Token.kind_ofWord, ?_⟩
  · rw [kind]
    exact longest
  · intro operator
    rw [operator] at kind
    cases kind

theorem fits_number {glyph : Glyph} (digit : glyph.val.isDigit = true) (rest : List Glyph) :
    Fits (lexeme glyph (splitNumber rest).1 (.number (textOf (glyph :: (splitNumber rest).1))))
      (splitNumber rest).2 := by
  obtain ⟨whole, fraction, split, continues, isFraction, stops, noPoint⟩ := chars_splitNumber rest
  have longest := longest_number digit continues isFraction stops noPoint
  rw [← split] at longest
  refine ⟨rfl, longest, ?_, fun slash => by cases slash⟩
  intro k
  constructor
  · intro keyword
    cases keyword
  · intro same
    obtain ⟨first, second, more, spelled, notDigit⟩ := k.text_spelling
    have begins : glyph.val :: chars (splitNumber rest).1 = first :: second :: more :=
      String.ofList_injective (same.trans spelled)
    rw [(List.cons.inj begins).1, notDigit] at digit
    cases digit

theorem fits_dropped {glyph : Glyph} (notBlank : ¬ isBlank glyph.val = true)
    (notOperator : ¬ isOperatorSign glyph.val = true)
    (notPunctuation : ¬ isPunctuationSign glyph.val = true) (notSlash : ¬ glyph.val = '/')
    (notStart : ¬ isWordStart glyph.val = true) (notDigit : ¬ glyph.val.isDigit = true)
    (rest : List Glyph) : Fits (dropped glyph) rest := by
  refine ⟨Bool.eq_false_iff.mpr notBlank, ?_⟩
  intro kind more after split spells
  cases kind with
  | word =>
    obtain ⟨first, text, same, start, -⟩ := spells
    rw [← (List.cons.inj same).1] at start
    exact notStart start
  | number =>
    obtain ⟨first, whole, fraction, same, digit, -⟩ := spells
    rw [← (List.cons.inj same).1] at digit
    exact notDigit digit
  | operator =>
    obtain ⟨sign, isSign, same⟩ := spells
    rw [← (List.cons.inj same).1] at isSign
    rcases spells_operator.mp ⟨glyph.val, isSign, rfl⟩ with operator | slash
    · exact notOperator operator
    · exact notSlash slash
  | punctuation =>
    obtain ⟨sign, isSign, same⟩ := spells
    rw [← (List.cons.inj same).1] at isSign
    exact notPunctuation (List.contains_iff_mem.mpr isSign)

/-- The segment that begins with a character fits before what follows it. -/
theorem fits_first {glyph : Glyph} {rest : List Glyph} (ends : EndsLine (glyph :: rest)) :
    (first glyph rest).1.Fits (first glyph rest).2 := by
  -- A character is dropped once every question has been answered with no.
  unfold first
  simp only
  split
  case isTrue blank => exact blank
  case isFalse notBlank =>
  split
  case isTrue operator =>
    refine fits_sign rfl (.inl rfl) (spells_operator.mpr (.inl operator)) ?_
    intro slash
    rw [Token.operator_inj slash] at operator
    cases operator
  case isFalse notOperator =>
  split
  case isTrue punctuation =>
    exact fits_sign rfl (.inr rfl) ⟨glyph.val, List.contains_iff_mem.mp punctuation, rfl⟩
      fun slash => by cases slash
  case isFalse notPunctuation =>
  split
  case isTrue slash => exact fits_ofSlash slash ends
  case isFalse notSlash =>
  split
  case isTrue start => exact fits_word start rest
  case isFalse notStart =>
  split
  case isTrue digit => exact fits_number digit rest
  case isFalse notDigit =>
    exact fits_dropped notBlank notOperator notPunctuation notSlash notStart notDigit rest

/-- Cutting loses no character and doubles none. -/
theorem glyphs_cut (rest : List Glyph) : (cut rest).flatMap glyphs = rest := by
  induction rest using cut.induct with
  | case1 => simp [cut]
  | case2 glyph rest ih => rw [cut, List.flatMap_cons, ih, first_append]

/-- Every segment of a cut fits where it stands. -/
theorem fits_cut {rest : List Glyph} (ends : EndsLine rest) {before after : List Segment}
    {segment : Segment} (here : cut rest = before ++ segment :: after) :
    segment.Fits (after.flatMap glyphs) := by
  induction rest using cut.induct generalizing before with
  | case1 => simp [cut] at here
  | case2 glyph rest ih =>
    rw [cut] at here
    -- What follows the first segment is what was left of the characters when it was cut off.
    cases before with
    | nil =>
      obtain ⟨rfl, rfl⟩ := List.cons.inj here
      rw [glyphs_cut]
      exact fits_first ends
    | cons _ before =>
      have later : EndsLine (first glyph rest).2 := by
        rw [← first_append glyph rest] at ends
        exact ends.of_append
      exact ih later (List.cons.inj here).2

end Segment

namespace Source

theorem chars_place (p : Position) (text : List Char) : Segment.chars (place p text) = text := by
  induction text generalizing p with
  | nil => rfl
  | cons c text ih =>
    rw [place, Segment.chars, List.map_cons]
    exact congrArg _ (ih _)

theorem endsLine_glyphs (source : Source) : Segment.EndsLine source.glyphs := by
  unfold Segment.EndsLine glyphs
  rw [chars_place]
  induction source.lines with
  | nil => simp
  | cons line lines ih =>
    rw [List.flatMap_cons, List.getLast?_append]
    intro c last
    cases later : (lines.flatMap fun line => line.toList ++ ['\n']).getLast? with
    | none => simpa [later, eq_comm] using last
    | some d =>
      have same : d = c := by simpa [later] using last
      exact ih c (same ▸ later)

/-- A token of a source is that of a lexeme that fits where it stands. -/
theorem exists_fits {source : Source} {token : Located Token}
    (member : token ∈ source.tokenize.tokens) :
    ∃ first more following, (Segment.lexeme first more token.val).Fits following := by
  rw [tokenize_eq_cut] at member
  obtain ⟨segment, isSegment, read⟩ := List.mem_filterMap.mp member
  obtain ⟨before, after, here⟩ := List.append_of_mem isSegment
  cases segment with
  | blank | comment | dropped => cases read
  | lexeme first more token =>
    cases read
    exact ⟨first, more, _, Segment.fits_cut source.endsLine_glyphs here⟩

/-- A token of a source is spelled as its class asks. -/
theorem spells_of_mem_tokenize {source : Source} {token : Located Token}
    (member : token ∈ source.tokenize.tokens) :
    token.val.lexemeClass.Spells token.val.text.toList := by
  obtain ⟨first, more, following, text, longest, -, -⟩ := exists_fits member
  rw [text, String.toList_ofList]
  exact longest.1

/-- Tokenizing cuts the characters of a source into segments that fit where they stand. The tokens
are the lexemes among them and the warnings the characters that are dropped, each in order. -/
theorem tokenize_cuts_segments (source : Source) :
    ∃ segments : List Segment,
      segments.flatMap Segment.glyphs = source.glyphs ∧
      (∀ before segment after, segments = before ++ segment :: after →
        segment.Fits (after.flatMap Segment.glyphs)) ∧
      source.tokenize.tokens = segments.filterMap Segment.token? ∧
      source.tokenize.warnings = segments.filterMap Segment.warning? := by
  refine ⟨Segment.cut source.glyphs, Segment.glyphs_cut _, ?_, ?_, ?_⟩
  · intro before segment after here
    exact Segment.fits_cut source.endsLine_glyphs here
  · rw [tokenize_eq_cut]
  · rw [tokenize_eq_cut]

end Source

end TaskScript
