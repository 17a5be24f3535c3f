import TaskScript.Text.Numeral
import TaskScript.Toml.Reader

/-!
# TOML strings

Strings between double quotes know escapes, strings between single quotes do not; between three
quotes of either kind a string may run over several lines. Line ends inside a string are line feeds.
-/

namespace TaskScript.Toml

/-- The character with a code in hexadecimal, if there is one. -/
def charOfCode? (digits : List Char) : Option Char := do
  let code ← Numeral.read? 16 digits
  if code.isValidChar then some (Char.ofNat code) else none

/-- Reads what follows a backslash. -/
def escape : Reader Char
  | 'b' :: rest => some ('\x08', rest)
  | 't' :: rest => some ('\t', rest)
  | 'n' :: rest => some ('\n', rest)
  | 'f' :: rest => some ('\x0c', rest)
  | 'r' :: rest => some ('\r', rest)
  | '"' :: rest => some ('"', rest)
  | '\\' :: rest => some ('\\', rest)
  | 'u' :: a :: b :: c :: d :: rest => (charOfCode? [a, b, c, d]).map (·, rest)
  | 'U' :: a :: b :: c :: d :: e :: f :: g :: h :: rest =>
    (charOfCode? [a, b, c, d, e, f, g, h]).map (·, rest)
  | _ => none

theorem escape_length_lt {text rest : List Char} {c : Char} (h : escape text = some (c, rest)) :
    rest.length < text.length := by
  unfold escape at h
  split at h
  all_goals
    simp only [Option.some.injEq, Prod.mk.injEq, Option.map_eq_some_iff, reduceCtorEq] at h
  all_goals
    first
      | (obtain ⟨_, rfl⟩ := h; simp only [List.length_cons]; omega)
      | (obtain ⟨_, _, _, rfl⟩ := h; simp only [List.length_cons]; omega)

/-- Puts a character before what a reader finds. -/
def prepend (c : Char) (found : Option (List Char × List Char)) :
    Option (List Char × List Char) :=
  found.map fun (text, rest) => (c :: text, rest)

/-- Reads a string after its double quote. -/
def basicString (text : List Char) : Option (List Char × List Char) :=
  match text with
  | [] => none
  | '"' :: rest => some ([], rest)
  | '\\' :: rest =>
    match _found : escape rest with
    | some (c, rest) => prepend c (basicString rest)
    | none => none
  | c :: rest => if isPlain c then prepend c (basicString rest) else none
termination_by text.length
decreasing_by
  · have := escape_length_lt _found
    simp only [List.length_cons]
    omega
  · exact Nat.lt_succ_self _

/-- Reads a string after its single quote. -/
def literalString : Reader (List Char)
  | [] => none
  | '\'' :: rest => some ([], rest)
  | c :: rest => if isPlain c then prepend c (literalString rest) else none

/-- After a backslash: the text from the next character on that is not a blank or a line end, if
only blanks come before the end of this line. -/
def continued? (text : List Char) : Option (List Char) :=
  (newline? (skipSpaces text)).map skipBlankLines

theorem continued?_length_lt {text rest : List Char} (h : continued? text = some rest) :
    rest.length < text.length := by
  obtain ⟨after, found, rfl⟩ := Option.map_eq_some_iff.1 h
  have := newline?_length_lt found
  have := skipSpaces_length_le text
  have := skipBlankLines_length_le after
  omega

/-- Reads a string over several lines after its three double quotes. One or two quotes right before
the closing ones belong to the string. -/
def basicLines (text : List Char) : Option (List Char × List Char) :=
  match text with
  | [] => none
  | '"' :: '"' :: '"' :: '"' :: '"' :: rest => some (['"', '"'], rest)
  | '"' :: '"' :: '"' :: '"' :: rest => some (['"'], rest)
  | '"' :: '"' :: '"' :: rest => some ([], rest)
  | '\r' :: '\n' :: rest => prepend '\n' (basicLines rest)
  | '\n' :: rest => prepend '\n' (basicLines rest)
  | '\\' :: rest =>
    match _continued : continued? rest with
    | some rest => basicLines rest
    | none =>
      match _found : escape rest with
      | some (c, rest) => prepend c (basicLines rest)
      | none => none
  | c :: rest => if isPlain c then prepend c (basicLines rest) else none
termination_by text.length
decreasing_by
  · simp only [List.length_cons]
    omega
  · exact Nat.lt_succ_self _
  · have := continued?_length_lt _continued
    simp only [List.length_cons]
    omega
  · have := escape_length_lt _found
    simp only [List.length_cons]
    omega
  · exact Nat.lt_succ_self _

/-- Reads a string over several lines after its three single quotes. -/
def literalLines : Reader (List Char)
  | [] => none
  | '\'' :: '\'' :: '\'' :: '\'' :: '\'' :: rest => some (['\'', '\''], rest)
  | '\'' :: '\'' :: '\'' :: '\'' :: rest => some (['\''], rest)
  | '\'' :: '\'' :: '\'' :: rest => some ([], rest)
  | '\r' :: '\n' :: rest => prepend '\n' (literalLines rest)
  | '\n' :: rest => prepend '\n' (literalLines rest)
  | c :: rest => if isPlain c then prepend c (literalLines rest) else none

/-- The text without a line end at its very start. -/
def skipFirstNewline (text : List Char) : List Char := (newline? text).getD text

/-- Reads a string on one line, from its opening quote on. -/
def lineString : Reader (List Char)
  | '"' :: rest => basicString rest
  | '\'' :: rest => literalString rest
  | _ => none

/-- Reads a string from its opening quotes on. -/
def quotedString : Reader (List Char)
  | '"' :: '"' :: '"' :: rest => basicLines (skipFirstNewline rest)
  | '\'' :: '\'' :: '\'' :: rest => literalLines (skipFirstNewline rest)
  | text => lineString text

end TaskScript.Toml
