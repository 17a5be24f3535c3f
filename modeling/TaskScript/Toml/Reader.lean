/-!
# Readers

A reader takes a value off the front of some characters and leaves the rest, or fails.
-/

namespace TaskScript.Toml

/-- Takes a value off the front. -/
abbrev Reader (α : Type) := List Char → Option (α × List Char)

/-- Is the character a blank within a line? -/
def isSpace (c : Char) : Bool := c = ' ' || c = '\t'

/-- May the character stand in a comment or a string? All but controls may, apart from the tab. -/
def isPlain (c : Char) : Bool := c = '\t' || (' ' ≤ c && c ≠ '\x7f')

/-- Drops blanks within a line. -/
def skipSpaces (text : List Char) : List Char := text.dropWhile isSpace

/-- Drops a line end: a line feed, or a carriage return and a line feed. -/
def newline? : List Char → Option (List Char)
  | '\n' :: rest => some rest
  | '\r' :: '\n' :: rest => some rest
  | _ => none

/-- Drops a comment, if there is one, up to the end of its line. -/
def skipComment : List Char → List Char
  | '#' :: rest => rest.dropWhile isPlain
  | text => text

/-- Drops what may follow on a line: blanks, a comment and the line end, or the end of the text. -/
def endLine? (text : List Char) : Option (List Char) :=
  match skipComment (skipSpaces text) with
  | [] => some []
  | rest => newline? rest

theorem newline?_length_lt {text rest : List Char} (h : newline? text = some rest) :
    rest.length < text.length := by
  unfold newline? at h
  split at h
  · obtain rfl := Option.some.inj h
    exact Nat.lt_succ_self _
  · obtain rfl := Option.some.inj h
    exact Nat.lt_of_lt_of_le (Nat.lt_succ_self _) (Nat.le_succ _)
  · exact absurd h (Option.some_ne_none rest ·.symm)

theorem dropWhile_length_le (p : Char → Bool) (text : List Char) :
    (text.dropWhile p).length ≤ text.length :=
  (List.dropWhile_sublist p).length_le

theorem skipSpaces_length_le (text : List Char) : (skipSpaces text).length ≤ text.length :=
  dropWhile_length_le _ text

theorem skipComment_length_le (text : List Char) : (skipComment text).length ≤ text.length := by
  unfold skipComment
  split
  · rename_i rest
    have := dropWhile_length_le isPlain rest
    simp only [List.length_cons]
    omega
  · exact Nat.le_refl _

/-- Drops blanks, line ends and comments. A comment without a line end is left where it is. -/
def skipLines (text : List Char) : List Char :=
  match _found : newline? (skipComment (skipSpaces text)) with
  | some rest => skipLines rest
  | none => skipSpaces text
termination_by text.length
decreasing_by
  have := newline?_length_lt _found
  have := skipComment_length_le (skipSpaces text)
  have := skipSpaces_length_le text
  omega

/-- Drops blanks and line ends. -/
def skipBlankLines (text : List Char) : List Char :=
  match _found : newline? (skipSpaces text) with
  | some rest => skipBlankLines rest
  | none => skipSpaces text
termination_by text.length
decreasing_by
  have := newline?_length_lt _found
  have := skipSpaces_length_le text
  omega

theorem skipBlankLines_length_le (text : List Char) :
    (skipBlankLines text).length ≤ text.length := by
  fun_induction skipBlankLines text with
  | case1 text rest h ih =>
    have := newline?_length_lt h
    have := skipSpaces_length_le text
    omega
  | case2 text h => exact skipSpaces_length_le text

end TaskScript.Toml
