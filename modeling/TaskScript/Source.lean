import TaskScript.Position

/-!
# Sources

A source is a named text seen as lines. A line ends at a line feed, and a carriage return right
before that line feed belongs to the line end. The characters of a source are those of its lines,
each line followed by one line feed even where the text has none, so that nothing read from a source
can cross a line end unseen.
-/

namespace TaskScript

/-- A character and the place where it stands. -/
abbrev Glyph := Located Char

/-- Cuts a text into lines. What follows the last line feed is a line only if it is not empty, and
there a carriage return is a character like any other. -/
def cutLines : List Char → List (List Char)
  | [] => []
  | '\n' :: rest => [] :: cutLines rest
  | '\r' :: '\n' :: rest => [] :: cutLines rest
  | c :: rest =>
    match cutLines rest with
    | [] => [[c]]
    | line :: lines => (c :: line) :: lines

/-- A named text, cut into lines. -/
structure Source where
  name : String
  lines : List String
deriving DecidableEq

namespace Source

/-- The source of a text. -/
def ofText (name text : String) : Source := ⟨name, (cutLines text.toList).map String.ofList⟩

/-- The line of a number, counted from one. -/
def line? (source : Source) : Nat → Option String
  | 0 => none
  | n + 1 => source.lines[n]?

/-- Gives each character its place, the first one standing at the given position. -/
def place (p : Position) : List Char → List Glyph
  | [] => []
  | c :: rest => ⟨c, Span.single p⟩ :: place (p.after c) rest

/-- All characters in order, with a line feed after each line. -/
def glyphs (source : Source) : List Glyph :=
  place {} (source.lines.flatMap fun line => line.toList ++ ['\n'])

end Source

end TaskScript
