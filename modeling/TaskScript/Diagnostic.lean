import TaskScript.Source

/-!
# Diagnostics

Messages about a source, each with the lines it is about and carets under the place to blame. The
gutter of a message is as wide as the number of its last line.

Messages are printed line by line. Blanks and carets are set as fields of a width, and no field can
be wider than `Diagnostics.fieldLimit`: where one would be, printing breaks off before the line with
the carets, and what has been printed by then stays.
-/

namespace TaskScript

/-- Messages of one kind about one source. -/
structure Diagnostics where
  source : Source
  kind : String := "error"
  messages : List (Located String)

namespace Diagnostics

/-- As many spaces. -/
def spaces (n : Nat) : String := String.ofList (List.replicate n ' ')

/-- The number in a field of the given width, at its right. -/
def padLeft (width n : Nat) : String :=
  let digits := Numeral.decimal n
  spaces (width - digits.length) ++ digits

/-- A plural `s` unless there is exactly one. -/
def plural (n : Nat) : String := if n = 1 then "" else "s"

/-- The first and the last column to underline. A span over several lines is marked at its start
only. -/
def underline (span : Span) : Nat × Nat :=
  let start := span.start.column
  if span.stop.line = span.start.line then (start, max (span.stop.column - 1) start)
  else (start, start)

/-- The widest field that can be set. -/
def fieldLimit : Nat := 65535

/-- The lines of a message above its carets. -/
def excerpt (source : Source) (kind : String) (message : Located String) : List String :=
  let span := message.span
  let width := (Numeral.decimal span.stop.line).length
  let shown := List.range' span.start.line (span.stop.line + 1 - span.start.line)
  [kind ++ ": " ++ message.val,
    " --> " ++ span.text source.name,
    spaces width ++ " |"]
  ++ shown.map (fun n => padLeft width n ++ " | " ++ (source.line? n).getD "")

/-- The line with the carets, unless the blanks before them or the carets are too wide a field. -/
def caretLine? (span : Span) : Option String :=
  let width := (Numeral.decimal span.stop.line).length
  let (low, high) := underline span
  if low - 1 ≤ fieldLimit ∧ high - low + 1 ≤ fieldLimit then
    some (spaces width ++ " | " ++ spaces (low - 1)
      ++ String.ofList (List.replicate (high - low + 1) '^'))
  else none

/-- The lines that messages take, or those that are printed before one breaks off. -/
def blocks (source : Source) (kind : String) :
    List (Located String) → Except (List String) (List String)
  | [] => .ok []
  | message :: messages =>
    let above := excerpt source kind message
    match caretLine? message.span with
    | none => .error above
    | some carets =>
      let block := above ++ [carets, ""]
      match blocks source kind messages with
      | .error printed => .error (block ++ printed)
      | .ok printed => .ok (block ++ printed)

/-- The line after all messages. -/
def footer (kind : String) (count : Nat) : String :=
  if kind = "error" then
    "Compilation failed with " ++ Numeral.decimal count ++ " error" ++ plural count
  else Numeral.decimal count ++ " " ++ kind ++ plural count ++ " emitted"

/-- All lines, or those that are printed before a message breaks off. -/
def lines (d : Diagnostics) : Except (List String) (List String) :=
  if d.messages.isEmpty then .ok ["No " ++ d.kind ++ "s were reported"]
  else
    match blocks d.source d.kind d.messages with
    | .error printed => .error printed
    | .ok printed => .ok (printed ++ [footer d.kind d.messages.length])

/-- Lines as one text, each ended by a line feed. -/
def joined (lines : List String) : String :=
  String.ofList (lines.flatMap fun line => line.toList ++ ['\n'])

/-- What is printed, as a whole or up to the place where it breaks off. -/
def text (d : Diagnostics) : Except String String :=
  match d.lines with
  | .error printed => .error (joined printed)
  | .ok printed => .ok (joined printed)

end Diagnostics

end TaskScript
