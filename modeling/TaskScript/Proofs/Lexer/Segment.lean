import TaskScript.Lexer

/-!
# Segments of a source

The characters of a source are cut into consecutive segments: blanks, comments, lexemes and
characters that belong to nothing. `Segment.first` takes a segment off the front, and
`Segment.first_rest_length_le` says that what is left is no longer than what followed its first
character, so that `Segment.cut` comes to an end.
-/

namespace TaskScript

/-- A stretch of consecutive characters that is read as a whole. -/
inductive Segment where
  | blank (glyph : Glyph)
  | comment (slash : Glyph) (more : List Glyph)
  | lexeme (first : Glyph) (more : List Glyph) (token : Token)
  | dropped (glyph : Glyph)
deriving DecidableEq

namespace Segment

/-- The characters of the segment. -/
def glyphs : Segment → List Glyph
  | blank glyph | dropped glyph => [glyph]
  | comment first more | lexeme first more _ => first :: more

/-- The token that the segment is read as, from the start of its first character to the stop of its
last one. -/
def token? : Segment → Option (Located Token)
  | lexeme first more token => some ⟨token, first.span.through (more.getLastD first).span⟩
  | _ => none

/-- The warning that the segment gives rise to. -/
def warning? : Segment → Option (Located LexWarning)
  | dropped glyph => some ⟨.badChar glyph.val, glyph.span⟩
  | _ => none

/-- The text of some characters. -/
def textOf (glyphs : List Glyph) : String := String.ofList (glyphs.map (·.val))

/-- Splits off the characters that continue a word. -/
def splitWord (rest : List Glyph) : List Glyph × List Glyph :=
  (rest.takeWhile (isWordChar ·.val), rest.dropWhile (isWordChar ·.val))

/-- Splits off the characters that continue a number: those that continue a word, and then once a
point with a digit right after it and what continues a word after that. -/
def splitNumber (rest : List Glyph) : List Glyph × List Glyph :=
  match splitWord rest with
  | (whole, point :: digit :: after) =>
    if point.val = '.' ∧ digit.val.isDigit then
      let (fraction, rest) := splitWord after
      (whole ++ point :: digit :: fraction, rest)
    else (whole, point :: digit :: after)
  | split => split

/-- Splits off the rest of the line, without its line feed. -/
def splitLine (rest : List Glyph) : List Glyph × List Glyph :=
  (rest.takeWhile (·.val ≠ '\n'), rest.dropWhile (·.val ≠ '\n'))

/-- The segment that begins with a slash: a comment if another slash follows. -/
def ofSlash (slash : Glyph) : List Glyph → Segment × List Glyph
  | [] => (lexeme slash [] (.operator '/'), [])
  | next :: rest =>
    if next.val = '/' then
      let (text, rest) := splitLine rest
      (comment slash (next :: text), rest)
    else (lexeme slash [] (.operator '/'), next :: rest)

/-- The segment that begins with a character, and the characters after the segment. -/
def first (glyph : Glyph) (rest : List Glyph) : Segment × List Glyph :=
  let c := glyph.val
  if isBlank c then (blank glyph, rest)
  else if isOperatorSign c then (lexeme glyph [] (.operator c), rest)
  else if isPunctuationSign c then (lexeme glyph [] (.punctuation c), rest)
  else if c = '/' then ofSlash glyph rest
  -- A digit beyond ASCII continues a word but begins neither a word nor a number.
  else if isWordStart c then
    let (more, rest) := splitWord rest
    (lexeme glyph more (.ofWord (textOf (glyph :: more))), rest)
  else if c.isDigit then
    let (more, rest) := splitNumber rest
    (lexeme glyph more (.number (textOf (glyph :: more))), rest)
  else (dropped glyph, rest)

theorem splitWord_append (rest : List Glyph) : (splitWord rest).1 ++ (splitWord rest).2 = rest :=
  List.takeWhile_append_dropWhile

theorem splitLine_append (rest : List Glyph) : (splitLine rest).1 ++ (splitLine rest).2 = rest :=
  List.takeWhile_append_dropWhile

theorem splitNumber_append (rest : List Glyph) :
    (splitNumber rest).1 ++ (splitNumber rest).2 = rest := by
  have whole := splitWord_append rest
  unfold splitNumber
  split
  case h_1 start point digit after split =>
    rw [split] at whole
    split
    · have fraction := splitWord_append after
      simp_all
    · exact whole
  case h_2 => exact whole

theorem ofSlash_append (slash : Glyph) (rest : List Glyph) :
    (ofSlash slash rest).1.glyphs ++ (ofSlash slash rest).2 = slash :: rest := by
  cases rest with
  | nil => rfl
  | cons next rest =>
    rw [ofSlash]
    split
    · simp [glyphs, splitLine_append]
    · rfl

/-- A segment and what follows it make up what there was. -/
theorem first_append (glyph : Glyph) (rest : List Glyph) :
    (first glyph rest).1.glyphs ++ (first glyph rest).2 = glyph :: rest := by
  unfold first
  simp only
  split
  · rfl
  split
  · rfl
  split
  · rfl
  split
  · exact ofSlash_append glyph rest
  split
  · simp [glyphs, splitWord_append]
  split
  · simp [glyphs, splitNumber_append]
  · rfl

theorem glyphs_length_pos (segment : Segment) : 0 < segment.glyphs.length := by
  cases segment <;> simp [glyphs]

/-- Each segment takes at least its first character. -/
theorem first_rest_length_le (glyph : Glyph) (rest : List Glyph) :
    (first glyph rest).2.length ≤ rest.length := by
  have lengths := congrArg List.length (first_append glyph rest)
  have taken := glyphs_length_pos (first glyph rest).1
  simp only [List.length_append, List.length_cons] at lengths
  omega

/-- Cuts characters into segments. -/
def cut : List Glyph → List Segment
  | [] => []
  | glyph :: rest => (first glyph rest).1 :: cut (first glyph rest).2
termination_by glyphs => glyphs.length
decreasing_by
  have := first_rest_length_le glyph rest
  simp only [List.length_cons]
  omega

end Segment

end TaskScript
