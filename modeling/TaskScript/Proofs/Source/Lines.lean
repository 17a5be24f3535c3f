import TaskScript.Proofs.Source.Columns

/-!
# Lines of a text

A source keeps the lines of its text and gives their characters back with a line feed after each. The
ways in which a line can end in the text are gone by then, and the last line has the line feed that
it may have lacked. Which characters are left is told step by step along the text, so that nothing
behind this module looks into the cutting of lines.

* `Source.normalized`: the characters of a text as its source gives them.
* `Source.normalized_eq_append`: a text without carriage returns that does not end in a line feed is
  left as it is, with a line feed behind it.
* `Source.cutLines_append`: behind a line feed the lines begin anew.
-/

namespace TaskScript

namespace Source

/-! ## Lines, one character at a time -/

theorem cutLines_eq_nil_iff {text : List Char} : cutLines text = [] ↔ text = [] := by
  constructor
  · intro none
    induction text using cutLines.induct with
    | case1 => rfl
    | case2 | case3 => simp [cutLines] at none
    | case4 c rest notFeed notReturn found ih =>
      rw [cutLines, found] at none
      · cases none
      · exact notFeed
      · exact notReturn
    | case5 c rest notFeed notReturn line lines found ih =>
      rw [cutLines, found] at none
      · cases none
      · exact notFeed
      · exact notReturn
  · rintro rfl
    rfl

/-- The character stands in a line: it is no line feed, and no carriage return before one. -/
def InLine (c : Char) (rest : List Char) : Prop :=
  c ≠ '\n' ∧ (c = '\r' → ∀ more, rest ≠ '\n' :: more)

theorem cutLines_of_inLine {c : Char} {rest : List Char} (inLine : InLine c rest)
    (more : rest ≠ []) :
    ∃ line lines, cutLines rest = line :: lines ∧ cutLines (c :: rest) = (c :: line) :: lines := by
  obtain ⟨notFeed, notEnd⟩ := inLine
  obtain ⟨line, lines, found⟩ :=
    List.exists_cons_of_ne_nil (mt cutLines_eq_nil_iff.mp more)
  refine ⟨line, lines, found, ?_⟩
  rw [cutLines, found]
  · exact notFeed
  · exact fun more isReturn isFeed => notEnd isReturn more isFeed

theorem cutLines_last {c : Char} (notFeed : c ≠ '\n') : cutLines [c] = [[c]] := by
  rw [cutLines, cutLines]
  · exact notFeed
  · intro more _ isPair
    cases isPair

/-- A text is read along its lines: from the front, a line feed, a carriage return with a line feed,
a character that stands in a line and has others behind it, or one that ends the text. -/
theorem lines_induction {motive : List Char → Prop} (empty : motive [])
    (feed : ∀ rest, motive rest → motive ('\n' :: rest))
    (ret : ∀ rest, motive rest → motive ('\r' :: '\n' :: rest))
    (last : ∀ c, c ≠ '\n' → motive [c])
    (cons : ∀ c rest, InLine c rest → rest ≠ [] → motive rest → motive (c :: rest))
    (text : List Char) : motive text := by
  induction text using cutLines.induct with
  | case1 => exact empty
  | case2 rest ih => exact feed rest ih
  | case3 rest ih => exact ret rest ih
  | case4 c rest notFeed notReturn found ih =>
    obtain rfl := cutLines_eq_nil_iff.mp found
    exact last c notFeed
  | case5 c rest notFeed notReturn line lines found ih =>
    refine cons c rest ⟨notFeed, fun isReturn more isFeed => notReturn more isReturn isFeed⟩ ?_ ih
    rintro rfl
    cases found

/-- A text without line feeds is one line, unless it is empty. -/
theorem lines_of_notMem (name : String) {text : List Char} (nonempty : text ≠ [])
    (noFeed : '\n' ∉ text) : (ofText name (String.ofList text)).lines = [String.ofList text] := by
  have single : cutLines text = [text] := by
    induction text using lines_induction with
    | empty => exact absurd rfl nonempty
    | feed rest => exact absurd List.mem_cons_self noFeed
    | ret rest => exact absurd (List.mem_cons_of_mem _ List.mem_cons_self) noFeed
    | last c notFeed => exact cutLines_last notFeed
    | cons c rest inLine more ih =>
      obtain ⟨line, lines, found, longer⟩ := cutLines_of_inLine inLine more
      rw [ih more (mt (List.mem_cons_of_mem c) noFeed)] at found
      cases found
      exact longer
  rw [ofText, String.toList_ofList, single]
  rfl

/-! ## The characters that a source gives -/

/-- The characters of a text as its source gives them: the lines, each with a line feed behind it. -/
def normalized (text : List Char) : List Char := unlines ((cutLines text).map String.ofList)

theorem glyphs_ofText (name text : String) :
    (ofText name text).glyphs = place {} (normalized text.toList) := rfl

theorem normalized_feed (rest : List Char) : normalized ('\n' :: rest) = '\n' :: normalized rest := by
  unfold normalized
  rw [cutLines, List.map_cons, unlines_cons]
  rfl

theorem normalized_return (rest : List Char) :
    normalized ('\r' :: '\n' :: rest) = '\n' :: normalized rest := by
  unfold normalized
  rw [cutLines, List.map_cons, unlines_cons]
  rfl

theorem normalized_last {c : Char} (notFeed : c ≠ '\n') : normalized [c] = [c, '\n'] := by
  unfold normalized
  rw [cutLines_last notFeed, List.map_singleton, unlines_cons, String.toList_ofList]
  rfl

theorem normalized_cons {c : Char} {rest : List Char} (inLine : InLine c rest) (more : rest ≠ []) :
    normalized (c :: rest) = c :: normalized rest := by
  obtain ⟨line, lines, found, longer⟩ := cutLines_of_inLine inLine more
  unfold normalized
  rw [longer, found, List.map_cons, List.map_cons, unlines_cons, unlines_cons, String.toList_ofList,
    String.toList_ofList]
  rfl

/-- A text without carriage returns that does not end in a line feed gets one behind it. -/
theorem normalized_eq_append {text : List Char} (nonempty : text ≠ []) (noReturn : '\r' ∉ text)
    (open_ : text.getLast? ≠ some '\n') : normalized text = text ++ ['\n'] := by
  induction text using lines_induction with
  | empty => exact absurd rfl nonempty
  | feed rest ih =>
    rw [List.mem_cons, not_or] at noReturn
    have more : rest ≠ [] := by
      rintro rfl
      exact open_ rfl
    rw [List.getLast?_cons_of_ne_nil more] at open_
    rw [normalized_feed, ih more noReturn.2 open_, List.cons_append]
  | ret rest => exact absurd List.mem_cons_self noReturn
  | last c notFeed => exact normalized_last notFeed
  | cons c rest inLine more ih =>
    rw [List.mem_cons, not_or] at noReturn
    rw [List.getLast?_cons_of_ne_nil more] at open_
    rw [normalized_cons inLine more, ih more noReturn.2 open_, List.cons_append]

/-! ## One text behind another -/

/-- A character in front of the first line changes nothing about the lines below. -/
theorem cutLines_cons_append {c : Char} {whole above below : List Char} (inWhole : InLine c whole)
    (inAbove : InLine c above) (more : above ≠ [])
    (split : cutLines whole = cutLines above ++ cutLines below) :
    cutLines (c :: whole) = cutLines (c :: above) ++ cutLines below := by
  obtain ⟨line, lines, found, longer⟩ := cutLines_of_inLine inAbove more
  have wholeMore : whole ≠ [] := by
    rintro rfl
    rw [found] at split
    cases split
  obtain ⟨line', lines', found', longer'⟩ := cutLines_of_inLine inWhole wholeMore
  rw [found, found', List.cons_append] at split
  obtain ⟨rfl, rfl⟩ := List.cons.inj split
  rw [longer, longer']
  rfl

theorem cutLines_append_feed (before below : List Char) :
    cutLines (before ++ '\n' :: below) = cutLines (before ++ ['\n']) ++ cutLines below := by
  induction before using lines_induction with
  | empty => simp [cutLines]
  | feed rest ih => simp [cutLines, ih]
  | ret rest ih => simp [cutLines, ih]
  | last c notFeed =>
    by_cases isReturn : c = '\r'
    · simp [isReturn, cutLines]
    · have inLine : ∀ rest, InLine c rest := fun rest => ⟨notFeed, fun same => absurd same isReturn⟩
      exact cutLines_cons_append (inLine _) (inLine _) (List.cons_ne_nil _ _) (by simp [cutLines])
  | cons c rest inLine more ih =>
    -- What comes behind does not matter to whether the character stands in a line.
    have inLonger : ∀ tail, InLine c (rest ++ tail) := by
      intro tail
      refine ⟨inLine.1, fun isReturn later split => ?_⟩
      obtain ⟨d, rest, rfl⟩ := List.exists_cons_of_ne_nil more
      obtain ⟨rfl, -⟩ := List.cons.inj split
      exact inLine.2 isReturn rest rfl
    exact cutLines_cons_append (inLonger _) (inLonger _) (by simp) ih

/-- Behind a line feed the lines begin anew. -/
theorem cutLines_append {above : List Char} (ends : above = [] ∨ ∃ before, above = before ++ ['\n'])
    (below : List Char) : cutLines (above ++ below) = cutLines above ++ cutLines below := by
  rcases ends with rfl | ⟨before, rfl⟩
  · rfl
  · rw [List.append_assoc, List.singleton_append, cutLines_append_feed]

end Source

end TaskScript
