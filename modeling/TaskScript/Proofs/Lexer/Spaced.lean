import Mathlib.Data.List.Basic
import TaskScript.Proofs.Lexer.Fitting
import TaskScript.Proofs.Source.Lines

/-!
# Lexemes with blanks between them

A blank ends whatever lexeme stands before it and begins none. So a text that is written as lexemes
with a blank after each is read as those lexemes, whatever they are, and nothing of it is dropped.
The tokens of a text are such lexemes, and reading them again gives them back.

* `Segment.first_before_blank`: a lexeme before a blank is cut off as a whole.
* `Segment.cut_spaced`: lexemes with blanks between them are the segments of what they spell.
* `Source.tokenize_joined`: tokens written with a blank between them are read back.
* `Source.tokenize_respelled`: the tokens of a text, written with spaces between them or one on each
  line, are read back.
-/

namespace TaskScript

namespace Segment

/-- A lexeme before a blank is cut off as a whole. -/
theorem first_before_blank {token : Token} (isLexeme : token.IsLexeme) {glyph blank : Glyph}
    {more : List Glyph} (rest : List Glyph)
    (spelled : chars (glyph :: more) = token.text.toList) (ends : isBlank blank.val = true) :
    first glyph (more ++ blank :: rest) = (.lexeme glyph more token, blank :: rest) := by
  refine first_of_lexeme isLexeme spelled ?_ ?_
  · rw [spelled]
    exact isLexeme.1.longest_before_blank ends (chars rest)
  · intro _ slash
    have isSlash : blank.val = '/' := Option.some.inj slash
    rw [isSlash] at ends
    cases ends

/-- A lexeme and a blank are two segments of their own. -/
theorem cut_lexeme {token : Token} (isLexeme : token.IsLexeme) {gap : Char}
    (ends : isBlank gap = true) {glyphs : List Glyph} {following : List Char}
    (spelled : chars glyphs = token.text.toList ++ gap :: following) :
    ∃ glyph more blank rest, cut glyphs = .lexeme glyph more token :: .blank blank :: cut rest ∧
      chars rest = following := by
  obtain ⟨lexeme, after, rfl, isText, spelledAfter⟩ := List.map_eq_append_iff.mp spelled
  obtain ⟨blank, rest, rfl, rfl, spelledRest⟩ := List.map_eq_cons_iff.mp spelledAfter
  obtain ⟨glyph, more, rfl⟩ : ∃ glyph more, lexeme = glyph :: more := by
    refine List.exists_cons_of_ne_nil fun none => isLexeme.text_ne_nil ?_
    rw [← isText, none, List.map_nil]
  refine ⟨glyph, more, blank, rest, ?_, spelledRest⟩
  rw [List.cons_append, cut, first_before_blank isLexeme rest isText ends, cut,
    first_of_blank rest ends]

/-- Lexemes with blanks between them and after the last one are read as what they are, and nothing
is dropped. -/
theorem cut_spaced {tokens : List Token} (lexemes : ∀ token ∈ tokens, token.IsLexeme)
    {gap ending : Char} (isGap : isBlank gap = true) (isEnding : isBlank ending = true)
    {glyphs : List Glyph}
    (spelled : chars glyphs = [gap].intercalate (tokens.map (·.text.toList)) ++ [ending]) :
    ((cut glyphs).filterMap token?).map (·.val) = tokens ∧
      (cut glyphs).filterMap warning? = [] := by
  induction tokens generalizing glyphs with
  | nil =>
    obtain ⟨blank, rest, rfl, rfl, noMore⟩ := List.map_eq_cons_iff.mp spelled
    obtain rfl : rest = [] := List.map_eq_nil_iff.mp noMore
    rw [cut, first_of_blank [] isEnding, cut]
    exact ⟨rfl, rfl⟩
  | cons token tokens ih =>
    rw [List.forall_mem_cons] at lexemes
    cases tokens with
    | nil =>
      rw [List.map_singleton, List.intercalate_singleton] at spelled
      obtain ⟨glyph, more, blank, rest, isCut, noMore⟩ := cut_lexeme lexemes.1 isEnding spelled
      obtain rfl : rest = [] := List.map_eq_nil_iff.mp noMore
      rw [isCut, cut]
      exact ⟨rfl, rfl⟩
    | cons next tokens =>
      rw [List.map_cons, List.map_cons, List.intercalate_cons_cons, List.append_assoc,
        List.append_assoc, List.singleton_append] at spelled
      obtain ⟨glyph, more, blank, rest, isCut, others⟩ := cut_lexeme lexemes.1 isGap spelled
      obtain ⟨sameTokens, noWarnings⟩ := ih lexemes.2 others
      rw [isCut]
      exact ⟨congrArg (token :: ·) sameTokens, noWarnings⟩

end Segment

theorem notMem_intercalate {c gap : Char} (other : c ≠ gap) {texts : List (List Char)}
    (outside : ∀ text ∈ texts, c ∉ text) : c ∉ [gap].intercalate texts := by
  induction texts with
  | nil => exact List.not_mem_nil
  | cons text texts ih =>
    rw [List.forall_mem_cons] at outside
    cases texts with
    | nil => rw [List.intercalate_singleton]; exact outside.1
    | cons next texts =>
      rw [List.intercalate_cons_cons, List.mem_append, List.mem_append, List.mem_singleton]
      rintro ((inText | isGap) | later)
      · exact outside.1 inText
      · exact other isGap
      · exact ih outside.2 later

/-- The last character of texts with a gap between them is that of one of the texts. -/
theorem exists_getLast?_intercalate (gap : Char) {texts : List (List Char)} (some_ : texts ≠ [])
    (filled : ∀ text ∈ texts, text ≠ []) :
    [gap].intercalate texts ≠ [] ∧
      ∃ text ∈ texts, ([gap].intercalate texts).getLast? = text.getLast? := by
  induction texts with
  | nil => exact absurd rfl some_
  | cons text texts ih =>
    rw [List.forall_mem_cons] at filled
    cases texts with
    | nil =>
      rw [List.intercalate_singleton]
      exact ⟨filled.1, text, List.mem_cons_self, rfl⟩
    | cons next texts =>
      obtain ⟨more, later, member, same⟩ := ih (List.cons_ne_nil _ _) filled.2
      rw [List.intercalate_cons_cons]
      refine ⟨by simp, later, List.mem_cons_of_mem _ member, ?_⟩
      rw [List.getLast?_append_of_ne_nil _ more, same]

namespace Source

/-- Texts without blanks, written with a gap between them, get one line feed behind the last one. -/
theorem normalized_intercalate {texts : List (List Char)} (some_ : texts ≠ [])
    (filled : ∀ text ∈ texts, text ≠ [])
    (solid : ∀ text ∈ texts, ∀ c, isBlank c = true → c ∉ text) {gap : Char} (notReturn : gap ≠ '\r') :
    normalized ([gap].intercalate texts) = [gap].intercalate texts ++ ['\n'] := by
  obtain ⟨nonempty, last, isLast, same⟩ := exists_getLast?_intercalate gap some_ filled
  refine normalized_eq_append nonempty ?_ ?_
  · exact notMem_intercalate notReturn.symm fun text isText => solid text isText '\r' (by decide)
  · rw [same]
    intro feed
    exact solid last isLast '\n' (by decide) (List.mem_of_getLast? feed)

/-- Tokens written with a blank between them are read back, without a warning. A carriage return
will not do for the blank, since one before a line feed is no character of its line. -/
theorem tokenize_joined (name : String) {tokens : List Token}
    (lexemes : ∀ token ∈ tokens, token.IsLexeme) {gap : String} {blank : Char}
    (isGap : gap.toList = [blank]) (blank_ : isBlank blank = true) (notReturn : blank ≠ '\r') :
    let read := (ofText name (gap.intercalate (tokens.map Token.text))).tokenize
    read.tokens.map (·.val) = tokens ∧ read.warnings = [] := by
  intro read
  have isText : (gap.intercalate (tokens.map Token.text)).toList =
      [blank].intercalate (tokens.map (·.text.toList)) := by
    rw [String.toList_intercalate, List.map_map, isGap]
    rfl
  have isRead : read = _ := tokenize_eq_cut _
  rw [isRead, glyphs_ofText, isText]
  by_cases some_ : tokens = []
  · have nothing : normalized [] = [] := rfl
    rw [some_, List.map_nil, List.intercalate_nil, nothing, place, Segment.cut]
    exact ⟨rfl, rfl⟩
  · have isEnding : isBlank '\n' = true := rfl
    refine Segment.cut_spaced lexemes blank_ isEnding ?_
    rw [chars_place]
    refine normalized_intercalate (by simpa using some_) ?_ ?_ notReturn
    · intro text isText
      obtain ⟨token, member, rfl⟩ := List.mem_map.mp isText
      exact (lexemes token member).text_ne_nil
    · intro text isText c blank
      obtain ⟨token, member, rfl⟩ := List.mem_map.mp isText
      exact (lexemes token member).1.blank_notMem blank

/-- Tokens written with spaces between them are read back, without a warning. -/
theorem tokenize_spaced (name : String) {tokens : List Token}
    (lexemes : ∀ token ∈ tokens, token.IsLexeme) :
    (ofText name (" ".intercalate (tokens.map Token.text))).tokenize.tokens.map (·.val) = tokens ∧
      (ofText name (" ".intercalate (tokens.map Token.text))).tokenize.warnings = [] :=
  tokenize_joined name lexemes rfl (by decide) (by decide)

/-- Reading is stable: the tokens of a text, written one after the other with spaces between them or
each on a line of its own, are read as the same tokens, and nothing is dropped. -/
theorem tokenize_respelled (name text : String) :
    let tokens := (ofText name text).tokenize.tokens.map (·.val)
    let spaced := (ofText name (" ".intercalate (tokens.map Token.text))).tokenize
    let stacked := (ofText name ("\n".intercalate (tokens.map Token.text))).tokenize
    (spaced.tokens.map (·.val) = tokens ∧ spaced.warnings = []) ∧
      stacked.tokens.map (·.val) = tokens ∧ stacked.warnings = [] := by
  intro tokens spaced stacked
  have lexemes : ∀ token ∈ tokens, token.IsLexeme := by
    intro token member
    obtain ⟨located, isRead, rfl⟩ := List.mem_map.mp member
    exact isLexeme_of_mem_tokenize isRead
  constructor
  · exact tokenize_spaced name lexemes
  · exact tokenize_joined name lexemes rfl (by decide) (by decide)

end Source

end TaskScript
