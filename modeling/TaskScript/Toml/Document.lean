import TaskScript.Toml.Scalar
import TaskScript.Toml.Text

/-!
# TOML documents

A document is a list of headers and of keys with values. Tables are built as the lines are read: a
table has one header at most, a dotted key goes only through tables that dotted keys have made, and
no key is given twice.
-/

namespace TaskScript.Toml

/-! ## Keys -/

/-- May the character stand in a key without quotes? -/
def isBareKeyChar (c : Char) : Bool := c.isAlphanum || c = '_' || c = '-'

/-- Reads one part of a key. -/
def keyPart (text : List Char) : Option (String × List Char) :=
  match text with
  | '"' :: _ | '\'' :: _ => (lineString text).map fun (part, rest) => (String.ofList part, rest)
  | _ =>
    match text.span isBareKeyChar with
    | ([], _) => none
    | (part, rest) => some (String.ofList part, rest)

/-- A key has fewer parts than this, and values nest less deep. -/
def depthLimit : Nat := 80

/-- Reads a key of at most so many parts, with points between them and blanks around them. -/
def keyParts : Nat → Reader (List String)
  | 0, _ => none
  | limit + 1, text => do
    let (part, rest) ← keyPart (skipSpaces text)
    match skipSpaces rest with
    | '.' :: rest =>
      let (parts, rest) ← keyParts limit rest
      return (part :: parts, rest)
    | rest => return ([part], rest)

/-- Reads a key. -/
def key : Reader (List String) := keyParts (depthLimit - 1)

/-! ## Tables -/

/-- Changes the table at the end of a path. A table that is missing on the way is made, and marked
with the given origin; a list of tables stands for its last one. A dotted key must not lead through
a table with a header of its own. -/
def updateAt (origin : Origin) (change : Origin → Entries → Option Entries) :
    List String → Origin → Entries → Option Entries
  | [], own, entries => change own entries
  | part :: path, _, entries =>
    match entries.find? part with
    | none => do
      let inner ← updateAt origin change path origin []
      return entries.set part (.table origin inner)
    | some (.table own inner) => do
      if origin = .dotted ∧ own = .header then none
      let inner ← updateAt origin change path own inner
      return entries.set part (.table own inner)
    | some (.tables rows) => do
      let last ← rows.getLast?
      let inner ← updateAt origin change path .header last
      return entries.set part (.tables (rows.dropLast ++ [inner]))
    | some _ => none

/-- Splits a key into its last part and the parts before it. -/
def splitKey (parts : List String) : Option (List String × String) :=
  parts.getLast?.map (parts.dropLast, ·)

/-- Adds a key with its value to a table. -/
def addValue (parts : List String) (value : Value) (own : Origin) (entries : Entries) :
    Option Entries := do
  let (path, last) ← splitKey parts
  updateAt .dotted (fun reached entries =>
    if decide (reached = .dotted) = path.isEmpty ∨ (entries.find? last).isSome then none
    else some (entries.set last value)) path own entries

/-- Adds a table under its header. -/
def addTable (parts : List String) (root : Entries) : Option Entries := do
  let (path, last) ← splitKey parts
  updateAt .implied (fun _ entries =>
    match entries.find? last with
    | none => some (entries.set last (.table .header []))
    | some (.table .implied inner) => some (entries.set last (.table .header inner))
    | some _ => none) path .header root

/-- Adds a table to the list of tables under its header. -/
def addRow (parts : List String) (root : Entries) : Option Entries := do
  let (path, last) ← splitKey parts
  updateAt .implied (fun _ entries =>
    match entries.find? last with
    | none => some (entries.set last (.tables [[]]))
    | some (.tables rows) => some (entries.set last (.tables (rows ++ [[]])))
    | some _ => none) path .header root

/-! ## Values -/

/-- Reads the items of an array after its bracket or after a comma. -/
def items (value : Reader Value) (text : List Char) : Option (List Value × List Char) :=
  match skipLines text with
  | ']' :: rest => some ([], rest)
  | start =>
    match value start with
    | none => none
    | some (item, rest) =>
      match skipLines rest with
      | ']' :: rest => some ([item], rest)
      | ',' :: rest =>
        if rest.length < text.length then
          (items value rest).map fun (items, rest) => (item :: items, rest)
        else none
      | _ => none
termination_by text.length

/-- Reads a key, the sign after it and its value. -/
def keyValue (value : Reader Value) (text : List Char) :
    Option ((List String × Value) × List Char) := do
  let (parts, rest) ← key text
  let rest ← mark? '=' rest
  let (value, rest) ← value (skipSpaces rest)
  return ((parts, value), rest)

/-- Reads the entries of an inline table after its brace or after a comma. -/
def inlineEntries (value : Reader Value) (entries : Entries) (text : List Char) :
    Option (Entries × List Char) :=
  match keyValue value text with
  | none => none
  | some ((parts, item), rest) =>
    match addValue parts item .header entries with
    | none => none
    | some entries =>
      match skipSpaces rest with
      | '\x7d' :: rest => some (entries, rest)
      | ',' :: rest =>
        if rest.length < text.length then inlineEntries value entries rest else none
      | _ => none
termination_by text.length

/-- Reads an inline table after its brace. -/
def inlineTable (value : Reader Value) (text : List Char) : Option (Value × List Char) :=
  match skipSpaces text with
  | '\x7d' :: rest => some (.inlineTable [], rest)
  | rest => (inlineEntries value [] rest).map fun (entries, rest) => (.inlineTable entries, rest)

/-- Reads a value with at most so many arrays and inline tables inside one another. -/
def value : Nat → Reader Value
  | 0, text =>
    match text with
    | '[' :: _ | '\x7b' :: _ => none
    | '"' :: _ | '\'' :: _ => (quotedString text).map fun (s, rest) => (.string (.ofList s), rest)
    | _ => scalar text
  | nesting + 1, text =>
    match text with
    | '[' :: rest => (items (value nesting) rest).map fun (items, rest) => (.array items, rest)
    | '\x7b' :: rest => inlineTable (value nesting) rest
    | '"' :: _ | '\'' :: _ => (quotedString text).map fun (s, rest) => (.string (.ofList s), rest)
    | _ => scalar text

/-! ## Lines -/

/-- A document while it is read: the tables so far, and the header that keys belong to. -/
structure Progress where
  root : Entries := []
  header : List String := []

/-- Adds a key with its value under the current header. -/
def Progress.add (p : Progress) (parts : List String) (value : Value) : Option Progress := do
  let root ← updateAt .implied (addValue parts value) p.header .header p.root
  return { p with root }

/-- Reads a header after its first bracket. -/
def header (p : Progress) (text : List Char) : Option (Progress × List Char) :=
  match text with
  | '[' :: rest => do
    let (parts, rest) ← key rest
    let rest ← mark? ']' rest
    let rest ← mark? ']' rest
    return ({ root := ← addRow parts p.root, header := parts }, rest)
  | rest => do
    let (parts, rest) ← key rest
    let rest ← mark? ']' rest
    return ({ root := ← addTable parts p.root, header := parts }, rest)

/-- Reads what a line holds besides blanks and a comment. -/
def lineContent (p : Progress) (text : List Char) : Option (Progress × List Char) :=
  match text with
  | [] | '#' :: _ | '\n' :: _ | '\r' :: _ => some (p, text)
  | '[' :: rest => header p rest
  | _ => do
    let ((parts, value), rest) ← keyValue (value (depthLimit - 1)) text
    return (← p.add parts value, rest)

/-- Reads the lines of a document. -/
def documentLines (p : Progress) (text : List Char) : Option Entries :=
  match skipSpaces text with
  | [] => some p.root
  | start =>
    match lineContent p start with
    | none => none
    | some (p, rest) =>
      match endLine? rest with
      | none => none
      | some rest => if rest.length < text.length then documentLines p rest else none
termination_by text.length

/-- Drops the mark that tells the byte order, at the start of a text. -/
def skipByteOrderMark : List Char → List Char
  | '\ufeff' :: rest => rest
  | text => text

/-- Reads a document. -/
def parse? (text : String) : Option Entries := documentLines {} (skipByteOrderMark text.toList)

end TaskScript.Toml
