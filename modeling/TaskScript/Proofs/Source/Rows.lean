import TaskScript.Proofs.Lexer.Spans

/-!
# Rows of characters

A cursor runs along the text of a source and gives each character its place. The characters come out
in rows, one for each line, and where a character stands in its row is told by what stands before it
in the line, with tabs expanded.

* `Position.counted_moves`: however the cursor is moved, lines and columns are counted from one.
* `Source.place_unlines`: the characters of lines are placed row by row.
* `Source.isRow_row`: how the characters of a row stand.
* `Source.place_of_mem_glyphs`: any character of a text lies in one of its lines.
* `Source.glyphs_stand_in_rows`: what a source gives for a text, line by line.
-/

namespace TaskScript

/-! ## Moves of the cursor -/

namespace Position

/-- A move of the cursor. -/
inductive Move where
  | advance
  | back
  | newline
  | tab
deriving DecidableEq

/-- The place that a move leads to. -/
def move (p : Position) : Move → Position
  | .advance => p.advance
  | .back => p.back
  | .newline => p.newline
  | .tab => p.tab

/-- The place after some moves from the beginning of a text. -/
def moves (steps : List Move) : Position := steps.foldl move {}

/-- Line and column are counted from one. -/
structure IsCounted (p : Position) : Prop where
  line : 1 ≤ p.line
  column : 1 ≤ p.column

theorem IsCounted.move {p : Position} (counted : p.IsCounted) (step : Move) :
    (p.move step).IsCounted := by
  obtain ⟨line, column⟩ := counted
  cases step with
  | advance => exact ⟨line, Nat.le_add_left 1 p.column⟩
  | back => exact ⟨line, Nat.le_max_right (p.column - 1) 1⟩
  | newline => exact ⟨Nat.le_add_left 1 p.line, Nat.le_refl 1⟩
  | tab => exact ⟨line, Nat.le_add_right 1 (((p.column - 1) / tabWidth + 1) * tabWidth)⟩

theorem counted_moves (steps : List Move) : (moves steps).IsCounted := by
  have start : IsCounted {} := ⟨Nat.le_refl 1, Nat.le_refl 1⟩
  unfold moves
  generalize ({} : Position) = p at start ⊢
  induction steps generalizing p with
  | nil => exact start
  | cons step steps ih => exact ih (p.move step) (start.move step)

end Position

namespace Source

/-! ## Rows -/

/-- The characters of a line in their places, with the line feed that ends it. -/
def row (number : Nat) (line : String) : List Glyph := place ⟨number, 1⟩ (line.toList ++ ['\n'])

/-- Lines are placed row by row, since a line feed leads to the start of the next line. -/
theorem place_unlines {lines : List String} (clean : ∀ line ∈ lines, '\n' ∉ line.toList)
    (number : Nat) :
    place ⟨number, 1⟩ (unlines lines) =
      (lines.mapIdx fun i line => row (number + i) line).flatten := by
  induction lines generalizing number with
  | nil => rfl
  | cons line lines ih =>
    rw [List.forall_mem_cons] at clean
    have feed : Position.past ⟨number, 1⟩ (line.toList ++ ['\n']) = ⟨number + 1, 1⟩ :=
      Position.past_feed clean.1 (Nat.le_refl 1)
    have numbers : (fun i line => row (number + (i + 1)) line) =
        fun i line => row (number + 1 + i) line := by
      funext i line
      rw [Nat.add_right_comm, Nat.add_assoc]
    rw [unlines_cons, List.append_cons, place_append, feed, ih clean.2, List.mapIdx_cons,
      List.flatten_cons, Nat.add_zero, numbers]
    rfl

theorem glyphs_eq_rows (name text : String) :
    (ofText name text).glyphs =
      ((ofText name text).lines.mapIdx fun i line => row (i + 1) line).flatten := by
  have rows := place_unlines (feed_notMem_lines name text) 1
  rw [glyphs_eq_place]
  refine rows.trans ?_
  simp only [Nat.add_comm 1]

/-- A character stands behind the characters before it. -/
theorem getElem?_place (p : Position) (text : List Char) (i : Nat) :
    (place p text)[i]? = text[i]?.map fun c => ⟨c, Span.single (p.past (text.take i))⟩ := by
  induction text generalizing p i with
  | nil => rfl
  | cons c text ih =>
    cases i with
    | zero => rfl
    | succ i => exact ih (p.after c) i

/-- In a row, the column of a character is told by the expansion of what stands before it. -/
theorem getElem?_row {line : String} (clean : '\n' ∉ line.toList) (number i : Nat) :
    (row number line)[i]? = (line.toList ++ ['\n'])[i]?.map fun c =>
      ⟨c, Span.single ⟨number, 1 + (expandTabs 1 (line.toList.take i)).length⟩⟩ := by
  unfold row
  rw [getElem?_place]
  by_cases inRow : i ≤ line.toList.length
  · have before : (line.toList ++ ['\n']).take i = line.toList.take i :=
      List.take_append_of_le_length inRow
    have noFeed : '\n' ∉ line.toList.take i := fun feed => clean (List.mem_of_mem_take feed)
    rw [before, Position.past_line (Nat.le_refl 1) noFeed]
  · have outside : (line.toList ++ ['\n'])[i]? = none := by
      rw [List.getElem?_eq_none_iff, List.length_append, List.length_singleton]
      omega
    rw [outside]
    rfl

theorem glyph_of_getElem?_row {line : String} (clean : '\n' ∉ line.toList) {number i : Nat}
    {glyph : Glyph} (found : (row number line)[i]? = some glyph) :
    (line.toList ++ ['\n'])[i]? = some glyph.val ∧
      glyph.span = Span.single ⟨number, 1 + (expandTabs 1 (line.toList.take i)).length⟩ := by
  rw [getElem?_row clean] at found
  obtain ⟨c, isChar, rfl⟩ := Option.map_eq_some_iff.mp found
  exact ⟨isChar, rfl⟩

theorem span_of_mem_row {line : String} (clean : '\n' ∉ line.toList) {number : Nat} {glyph : Glyph}
    (member : glyph ∈ row number line) :
    ∃ column, 1 ≤ column ∧ glyph.span = Span.single ⟨number, column⟩ := by
  obtain ⟨i, found⟩ := List.mem_iff_getElem?.mp member
  exact ⟨_, Nat.le_add_right 1 _, (glyph_of_getElem?_row clean found).2⟩

/-- Behind a tab the expansion goes on at the next stop. -/
theorem length_expandTabs_tab (before : List Char) :
    1 + (expandTabs 1 (before ++ ['\t'])).length =
      nextStop (1 + (expandTabs 1 before).length) := by
  have behind := (nextStop_least (1 + (expandTabs 1 before).length)).1
  rw [expandTabs_append, expandTabs, if_pos rfl, expandTabs, List.append_nil, List.length_append,
    List.length_replicate]
  omega

/-- How the characters of a line stand. They are those of the line and a line feed. Each is one
column wide and starts behind the expansion of those before it, and no two overlap. What follows a
tab starts at the first of the columns 1, 5, 9, … that lies behind the tab. -/
structure IsRow (number : Nat) (line : String) (row : List Glyph) : Prop where
  chars : Segment.chars row = line.toList ++ ['\n']
  starts : ∀ (i : Nat) (glyph : Glyph), row[i]? = some glyph →
    glyph.span.start = ⟨number, 1 + (expandTabs 1 (line.toList.take i)).length⟩
  single : ∀ glyph ∈ row, glyph.span.stop = ⟨number, glyph.span.start.column + 1⟩
  afterTab : ∀ (i : Nat) (tab next : Glyph), row[i]? = some tab → row[i + 1]? = some next →
    tab.val = '\t' →
      tab.span.start.column < next.span.start.column ∧ next.span.start.column % 4 = 1 ∧
        ∀ stop, tab.span.start.column < stop → stop % 4 = 1 → next.span.start.column ≤ stop
  apart : row.Pairwise fun glyph later => glyph.span.stop.column ≤ later.span.start.column

theorem isRow_row {line : String} (clean : '\n' ∉ line.toList) (number : Nat) :
    IsRow number line (row number line) where
  chars := chars_place _ _
  starts := by
    intro i glyph found
    rw [(glyph_of_getElem?_row clean found).2]
    rfl
  single := by
    intro glyph member
    obtain ⟨column, -, span⟩ := span_of_mem_row clean member
    rw [span]
    rfl
  afterTab := by
    intro i tab next found foundNext isTab
    obtain ⟨isChar, place⟩ := glyph_of_getElem?_row clean found
    obtain ⟨-, placeNext⟩ := glyph_of_getElem?_row clean foundNext
    rw [isTab] at isChar
    -- The tab stands in the line and not behind it, where there is a line feed.
    have inLine : line.toList[i]? = some '\t' := by
      by_cases inside : i < line.toList.length
      · rwa [List.getElem?_append_left inside] at isChar
      · rw [List.getElem?_append_right (Nat.le_of_not_lt inside)] at isChar
        have last := List.mem_of_getElem? isChar
        simp at last
    have before : line.toList.take (i + 1) = line.toList.take i ++ ['\t'] := by
      rw [List.take_add_one, inLine]
      rfl
    have column : next.span.start.column = nextStop tab.span.start.column := by
      rw [place, placeNext, before]
      exact length_expandTabs_tab (line.toList.take i)
    rw [column]
    exact nextStop_least tab.span.start.column
  apart := by
    refine (pairwise_place ⟨number, 1⟩ (line.toList ++ ['\n'])).imp_of_mem ?_
    intro glyph later member memberLater before
    obtain ⟨column, -, span⟩ := span_of_mem_row clean member
    obtain ⟨columnLater, -, spanLater⟩ := span_of_mem_row clean memberLater
    have sameLine : glyph.span.stop.line = later.span.start.line := by
      rw [span, spanLater]
      rfl
    rw [Position.le_def] at before
    omega

/-! ## Lines and characters of a text -/

theorem exists_line? {source : Source} {number : Nat} (positive : 1 ≤ number)
    (inside : number ≤ source.lines.length) :
    ∃ line ∈ source.lines, source.line? number = some line := by
  obtain ⟨i, rfl⟩ : ∃ i, number = i + 1 := Nat.exists_eq_add_of_le' positive
  exact ⟨source.lines[i], List.getElem_mem inside, List.getElem?_eq_getElem inside⟩

/-- A character of a text lies in one of its lines and is one column wide. -/
theorem place_of_mem_glyphs {name text : String} {glyph : Glyph}
    (member : glyph ∈ (ofText name text).glyphs) :
    glyph.span.start.IsCounted ∧ glyph.span.start.line ≤ (ofText name text).lines.length ∧
      glyph.span = Span.single glyph.span.start := by
  rw [glyphs_eq_rows] at member
  obtain ⟨_, isRow, inRow⟩ := List.mem_flatten.mp member
  obtain ⟨i, inside, rfl⟩ := List.mem_mapIdx.mp isRow
  have clean := feed_notMem_lines name text _ (List.getElem_mem inside)
  obtain ⟨column, positive, span⟩ := span_of_mem_row clean inRow
  rw [span]
  exact ⟨⟨Nat.le_add_left 1 i, positive⟩, inside, rfl⟩

/-- For each line of a text, in order, its source gives the characters of the line and a line feed,
placed as in a row of their own. And wherever moves of a cursor lead from the beginning, line and
column are at least one, so that a tab takes nothing off the column that is not there, and leads to
the next stop. -/
theorem glyphs_stand_in_rows (name text : String) :
    let source := ofText name text
    (∃ rows : List (List Glyph), source.glyphs = rows.flatten ∧
      rows.length = source.lines.length ∧
      ∀ number, 1 ≤ number → number ≤ source.lines.length → ∃ line row,
        source.line? number = some line ∧ rows[number - 1]? = some row ∧
        IsRow number line row) ∧
    ∀ steps : List Position.Move,
      let here := Position.moves steps
      1 ≤ here.line ∧ 1 ≤ here.column ∧ here.column - 1 + 1 = here.column ∧
        Position.moves (steps ++ [.tab]) = ⟨here.line, nextStop here.column⟩ := by
  intro source
  constructor
  · refine ⟨source.lines.mapIdx fun i line => row (i + 1) line, glyphs_eq_rows name text,
      List.length_mapIdx, ?_⟩
    intro number positive inside
    obtain ⟨line, member, present⟩ := exists_line? positive inside
    have clean := feed_notMem_lines name text line member
    refine ⟨line, row number line, present, ?_, isRow_row clean number⟩
    obtain ⟨i, rfl⟩ : ∃ i, number = i + 1 := Nat.exists_eq_add_of_le' positive
    have isLine : source.lines[i]? = some line := present
    rw [Nat.add_sub_cancel, List.getElem?_mapIdx, isLine]
    rfl
  · intro steps here
    obtain ⟨line, column⟩ := Position.counted_moves steps
    refine ⟨line, column, Nat.sub_add_cancel column, ?_⟩
    have step : Position.moves (steps ++ [.tab]) = here.tab := List.foldl_append
    have stop : here.tab.column = nextStop here.column := Position.column_tab column
    rw [step, ← stop]
    rfl

/-- Tabs one behind the other, a line that ends in a carriage return and a line feed, and one that
is empty. -/
def indented : String := "\ta\t\tb\r\n\nc"

theorem indented_stands_in_rows :
    let source := ofText "" indented
    1 ≤ source.lines.length ∧ source.line? 1 = some "\ta\t\tb" ∧
      (∃ (rows : List (List Glyph)) (row : List Glyph) (glyph : Glyph),
        source.glyphs = rows.flatten ∧ rows[0]? = some row ∧ IsRow 1 "\ta\t\tb" row ∧
        row[4]? = some glyph ∧ glyph.val = 'b' ∧ glyph.span.start = ⟨1, 13⟩) ∧
      Position.moves [.tab, .back, .back, .tab] = ⟨1, 5⟩ := by
  intro source
  have inside : 1 ≤ source.lines.length := by decide
  have isLine : source.line? 1 = some "\ta\t\tb" := by decide
  obtain ⟨⟨rows, flat, -, found⟩, stops⟩ := glyphs_stand_in_rows "" indented
  obtain ⟨line, row, present, isRow, stands⟩ := found 1 (Nat.le_refl 1) inside
  obtain rfl : "\ta\t\tb" = line := Option.some.inj (isLine.symm.trans present)
  refine ⟨inside, isLine, ?_, (stops [.tab, .back, .back]).2.2.2⟩
  have fifth : (Segment.chars row)[4]? = some 'b' := by
    rw [stands.chars]
    decide
  obtain ⟨glyph, isGlyph, isChar⟩ : ∃ glyph, row[4]? = some glyph ∧ glyph.val = 'b' := by
    rwa [Segment.chars, List.getElem?_map, Option.map_eq_some_iff] at fifth
  refine ⟨rows, row, glyph, flat, isRow, stands, isGlyph, isChar, ?_⟩
  rw [stands.starts 4 glyph isGlyph]
  decide

end Source

end TaskScript
