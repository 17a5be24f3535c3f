import TaskScript.Text.Extending
import TaskScript.Text.Ignorable
import TaskScript.Text.Printable

/-!
# Characters between quotes

How a message shows a single character, so that a reader can tell it from its neighbours.
-/

namespace TaskScript

/-- The code of a character, in lower-case hexadecimal without padding. -/
def codeText (c : Char) : String :=
  "\\u\x7b" ++ String.ofList (Nat.toDigits 16 c.toNat) ++ "\x7d"

/-- Can the character be seen, and told from its neighbours? -/
def standsAlone (c : Char) : Bool := isPrintable c && !isExtending c && !isIgnorable c

/-- The text that stands for a character between single quotes. -/
def escapedText (c : Char) : String :=
  match c with
  | '\x00' => "\\0"
  | '\t' => "\\t"
  | '\r' => "\\r"
  | '\n' => "\\n"
  | '\'' => "\\'"
  | '\\' => "\\\\"
  | c => if standsAlone c then String.singleton c else codeText c

/-- The character between single quotes. -/
def quotedChar (c : Char) : String := "'" ++ escapedText c ++ "'"

end TaskScript
