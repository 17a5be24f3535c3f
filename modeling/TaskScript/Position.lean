import TaskScript.Text.Numeral

/-!
# Positions and spans

A position is a line and a column, both counted from one. A span runs from its start up to but not
including its stop. Tabs advance to stops of four columns, yet the tab itself counts as one column
wide: a span over a single character always ends one column after it starts.
-/

namespace TaskScript

/-- A place in a text. -/
structure Position where
  line : Nat := 1
  column : Nat := 1
deriving DecidableEq

namespace Position

/-- The distance between tab stops. -/
def tabWidth : Nat := 4

/-- The next column. -/
def advance (p : Position) : Position := { p with column := p.column + 1 }

/-- The column before, and never one before the first. -/
def back (p : Position) : Position := { p with column := max (p.column - 1) 1 }

/-- The start of the next line. -/
def newline (p : Position) : Position := ⟨p.line + 1, 1⟩

/-- The next tab stop after this column. -/
def tab (p : Position) : Position :=
  { p with column := 1 + ((p.column - 1) / tabWidth + 1) * tabWidth }

/-- The place after a character that stands here. -/
def after (p : Position) (c : Char) : Position :=
  if c = '\n' then p.newline else if c = '\t' then p.tab else p.advance

/-- Written as `line:column`. -/
def text (p : Position) : String := Numeral.decimal p.line ++ ":" ++ Numeral.decimal p.column

end Position

/-- A stretch of text between two positions, without the second. -/
structure Span where
  start : Position
  stop : Position
deriving DecidableEq

namespace Span

/-- The span of a single character. -/
def single (p : Position) : Span := ⟨p, p.advance⟩

/-- From the start of one span to the stop of another. -/
def through (first last : Span) : Span := ⟨first.start, last.stop⟩

/-- Written after the name of the source: one position where the span is a single character or
leaves its first line, and the first and last positions between brackets otherwise. -/
def text (name : String) (s : Span) : String :=
  if s.stop = s.start.advance ∨ s.stop.line ≠ s.start.line then name ++ ":" ++ s.start.text
  else name ++ ":[" ++ s.start.text ++ "-" ++ s.stop.back.text ++ "]"

end Span

/-- A value together with the stretch of text that it comes from. -/
structure Located (α : Type) where
  val : α
  span : Span
deriving DecidableEq

namespace Located

/-- The span and then the value, as messages show them. -/
def text {α : Type} (name : String) (valueText : α → String) (located : Located α) : String :=
  located.span.text name ++ ": " ++ valueText located.val

end Located

end TaskScript
