import TaskScript.Proofs.Lexer.Longest

/-!
# Columns of a line

A tab counts as one character and moves what follows it to the next stop. So a column is not a place
in a line, but it is a place in the line with its tabs expanded, and that is how a reader of a
message sees the line.

* `expandTabs`, `Position.past_line`: the column behind some characters of a line is told by their
  expansion.
* `Source.past_unlines`: the place behind whole lines.
* `Source.exists_line`: characters without a line feed among those of a source stand in one line.
* `Source.eq_place_of_append`: where a stretch of the characters of a source begins.
-/

namespace TaskScript

/-! ## Tab stops -/

/-- The tab stop behind a column. -/
def nextStop (column : Nat) : Nat := (column + 3) / 4 * 4 + 1

/-- Stops are the columns congruent to one modulo four, and the next one is the least of them behind
a column. -/
theorem nextStop_least (column : Nat) :
    column < nextStop column ∧ nextStop column % 4 = 1 ∧
      ∀ stop, column < stop → stop % 4 = 1 → nextStop column ≤ stop := by
  unfold nextStop
  refine ⟨by omega, by omega, ?_⟩
  intro stop behind isStop
  omega

/-- A line with each tab made into blanks up to the next stop. The first character stands at the
column. -/
def expandTabs (column : Nat) : List Char → List Char
  | [] => []
  | c :: rest =>
    if c = '\t' then
      List.replicate (nextStop column - column) ' ' ++ expandTabs (nextStop column) rest
    else c :: expandTabs (column + 1) rest

theorem expandTabs_append (column : Nat) (before after : List Char) :
    expandTabs column (before ++ after) =
      expandTabs column before ++
        expandTabs (column + (expandTabs column before).length) after := by
  induction before generalizing column with
  | nil => rfl
  | cons c before ih =>
    rw [List.cons_append, expandTabs, expandTabs]
    split
    case isTrue =>
      have behind := (nextStop_least column).1
      have there : column + (List.replicate (nextStop column - column) ' ' ++
          expandTabs (nextStop column) before).length =
          nextStop column + (expandTabs (nextStop column) before).length := by
        rw [List.length_append, List.length_replicate]
        omega
      rw [ih, there, List.append_assoc]
    case isFalse =>
      have there : column + (c :: expandTabs (column + 1) before).length =
          column + 1 + (expandTabs (column + 1) before).length := by
        rw [List.length_cons]
        omega
      rw [ih, there, List.cons_append]

theorem expandTabs_of_notMem {text : List Char} (noTab : '\t' ∉ text) (column : Nat) :
    expandTabs column text = text := by
  induction text generalizing column with
  | nil => rfl
  | cons c text ih =>
    rw [List.mem_cons, not_or] at noTab
    rw [expandTabs, if_neg (Ne.symm noTab.1), ih noTab.2]

/-! ## Places behind characters -/

namespace Position

variable {p : Position} {text : List Char}

/-- The place behind some characters, the first of which stands here. -/
def past (p : Position) (text : List Char) : Position := text.foldl after p

theorem past_append (p : Position) (before after : List Char) :
    p.past (before ++ after) = (p.past before).past after := List.foldl_append

theorem column_tab (counted : 1 ≤ p.column) : p.tab.column = nextStop p.column := by
  show 1 + ((p.column - 1) / 4 + 1) * 4 = (p.column + 3) / 4 * 4 + 1
  omega

/-- Within a line the column moves on as the expanded line does. -/
theorem past_line (counted : 1 ≤ p.column) (noFeed : '\n' ∉ text) :
    p.past text = ⟨p.line, p.column + (expandTabs p.column text).length⟩ := by
  induction text generalizing p with
  | nil => rfl
  | cons c text ih =>
    rw [List.mem_cons, not_or] at noFeed
    show (p.after c).past text = _
    rw [after, if_neg (Ne.symm noFeed.1), expandTabs]
    split
    case isTrue =>
      have stop := column_tab counted
      have behind := (nextStop_least p.column).1
      rw [ih (by omega) noFeed.2, stop, List.length_append, List.length_replicate]
      show (⟨p.line, _⟩ : Position) = ⟨p.line, _⟩
      congr 1
      omega
    case isFalse =>
      rw [ih (Nat.le_add_left 1 p.column) noFeed.2, List.length_cons]
      show (⟨p.line, p.column + 1 + _⟩ : Position) = ⟨p.line, _⟩
      congr 1
      show p.column + 1 + (expandTabs (p.column + 1) text).length = _
      omega

/-- A line feed leads to the start of the next line. -/
theorem past_feed (noFeed : '\n' ∉ text) (counted : 1 ≤ p.column) :
    p.past (text ++ ['\n']) = ⟨p.line + 1, 1⟩ := by
  rw [past_append, past_line counted noFeed]
  rfl

end Position

namespace Source

/-! ## Lines and characters -/

/-- The characters of some lines, with a line feed after each. -/
def unlines (lines : List String) : List Char := lines.flatMap fun line => line.toList ++ ['\n']

theorem glyphs_eq_place (source : Source) : source.glyphs = place {} (unlines source.lines) := rfl

theorem unlines_cons (line : String) (lines : List String) :
    unlines (line :: lines) = line.toList ++ '\n' :: unlines lines := by
  unfold unlines
  rw [List.flatMap_cons, List.append_assoc, List.singleton_append]

/-- No line of a text has a line feed in it. -/
theorem feed_notMem_cutLines (text : List Char) : ∀ line ∈ cutLines text, '\n' ∉ line := by
  induction text using cutLines.induct with
  | case1 => simp [cutLines]
  | case2 rest ih => simpa [cutLines] using ih
  | case3 rest ih => simpa [cutLines] using ih
  | case4 c rest notFeed notReturn none ih =>
    have different : '\n' ≠ c := fun same => notFeed same.symm
    rw [cutLines, none]
    · simpa using different
    · exact notFeed
    · exact notReturn
  | case5 c rest notFeed notReturn line lines found ih =>
    have different : '\n' ≠ c := fun same => notFeed same.symm
    rw [found, List.forall_mem_cons] at ih
    rw [cutLines, found]
    · rw [List.forall_mem_cons, List.mem_cons, not_or]
      exact ⟨⟨different, ih.1⟩, ih.2⟩
    · exact notFeed
    · exact notReturn

theorem feed_notMem_lines (name text : String) :
    ∀ line ∈ (ofText name text).lines, '\n' ∉ line.toList := by
  intro line member
  obtain ⟨chars, isLine, rfl⟩ := List.mem_map.mp member
  rw [String.toList_ofList]
  exact feed_notMem_cutLines text.toList chars isLine

theorem past_unlines {p : Position} (counted : p.column = 1) {lines : List String}
    (clean : ∀ line ∈ lines, '\n' ∉ line.toList) :
    p.past (unlines lines) = ⟨p.line + lines.length, 1⟩ := by
  induction lines generalizing p with
  | nil =>
    show p = ⟨p.line, 1⟩
    rw [← counted]
  | cons line lines ih =>
    rw [List.forall_mem_cons] at clean
    rw [unlines_cons, ← List.singleton_append, ← List.append_assoc, Position.past_append,
      Position.past_feed clean.1 (Nat.le_of_eq counted.symm), ih rfl clean.2, List.length_cons]
    show (⟨p.line + 1 + lines.length, 1⟩ : Position) = ⟨p.line + (lines.length + 1), 1⟩
    congr 1
    omega

/-- Characters among which there is no line feed stand in one line, and what comes before them are
the lines above it and the beginning of it. -/
theorem exists_line {lines : List String} (clean : ∀ line ∈ lines, '\n' ∉ line.toList)
    {passed marked rest : List Char} (split : unlines lines = passed ++ (marked ++ rest))
    (nonempty : marked ≠ []) (noFeed : '\n' ∉ marked) :
    ∃ (above below : List String) (before after : List Char),
      lines = above ++ String.ofList (before ++ marked ++ after) :: below ∧
        passed = unlines above ++ before := by
  induction lines generalizing passed with
  | nil =>
    have empty := List.append_eq_nil_iff.mp split.symm
    exact absurd (List.append_eq_nil_iff.mp empty.2).1 nonempty
  | cons line lines ih =>
    rw [List.forall_mem_cons] at clean
    rw [unlines_cons] at split
    rcases List.append_eq_append_iff.mp split with
      ⟨behind, rfl, remaining⟩ | ⟨left, inLine, remaining⟩
    · -- The characters stand below this line.
      cases behind with
      | nil =>
        obtain ⟨c, more, rfl⟩ := List.exists_cons_of_ne_nil nonempty
        have first : '\n' = c := (List.cons.inj remaining).1
        exact absurd (List.mem_cons.mpr (.inl first)) noFeed
      | cons c behind =>
        obtain ⟨rfl, later⟩ := List.cons.inj remaining
        obtain ⟨above, below, before, after, rfl, rfl⟩ := ih clean.2 later
        refine ⟨line :: above, below, before, after, rfl, ?_⟩
        rw [unlines_cons, List.append_assoc, List.cons_append]
    · -- They begin in this line, and no line feed lies in them.
      rcases List.append_eq_append_iff.mp remaining with
        ⟨after, rfl, -⟩ | ⟨excess, rfl, feed⟩
      · refine ⟨[], lines, passed, after, ?_, rfl⟩
        rw [List.nil_append, List.append_assoc, ← inLine, String.ofList_toList]
      · cases excess with
        | nil =>
          refine ⟨[], lines, passed, [], ?_, rfl⟩
          rw [List.nil_append, List.append_nil, List.append_nil, ← inLine, String.ofList_toList]
        | cons c excess =>
          have first : '\n' = c := (List.cons.inj feed).1
          exact absurd (List.mem_append_right left (List.mem_cons.mpr (.inl first))) noFeed

theorem line?_of_append {source : Source} {above below : List String} {line : String}
    (lines : source.lines = above ++ line :: below) :
    source.line? (above.length + 1) = some line := by
  rw [line?, lines, List.getElem?_append_right (Nat.le_refl _), Nat.sub_self]
  rfl

/-! ## Placed characters -/

theorem place_append (p : Position) (before after : List Char) :
    place p (before ++ after) = place p before ++ place (p.past before) after := by
  induction before generalizing p with
  | nil => rfl
  | cons c before ih =>
    rw [List.cons_append, place, place, ih, List.cons_append]
    rfl

theorem length_place (p : Position) (text : List Char) : (place p text).length = text.length := by
  rw [← List.length_map (·.val)]
  exact congrArg List.length (chars_place p text)

/-- A stretch of placed characters is placed behind what comes before it. -/
theorem eq_place_of_append {p : Position} {text : List Char} {passed marked rest : List Glyph}
    (split : place p text = passed ++ (marked ++ rest)) :
    marked = place (p.past (Segment.chars passed)) (Segment.chars marked) := by
  have texts : text = Segment.chars passed ++ (Segment.chars marked ++ Segment.chars rest) := by
    rw [← Segment.chars_append, ← Segment.chars_append, ← split, chars_place]
  rw [texts, place_append, place_append] at split
  have tails := (List.append_inj split (by rw [length_place, Segment.chars, List.length_map])).2
  have lengths : (place (p.past (Segment.chars passed)) (Segment.chars marked)).length =
      marked.length := by
    rw [length_place, Segment.chars, List.length_map]
  exact (List.append_inj tails lengths).1.symm

/-- Characters that are neither tabs nor line feeds stand side by side. -/
theorem span_place {p : Position} {first : Glyph} {more : List Glyph}
    (placed : first :: more = place p (Segment.chars (first :: more)))
    (noFeed : '\n' ∉ Segment.chars (first :: more))
    (noTab : '\t' ∉ Segment.chars (first :: more)) :
    first.span.through (more.getLastD first).span =
      ⟨p, ⟨p.line, p.column + (Segment.chars (first :: more)).length⟩⟩ := by
  induction more generalizing p first with
  | nil =>
    have here : first = ⟨first.val, Span.single p⟩ := (List.cons.inj placed).1
    rw [here]
    rfl
  | cons second more ih =>
    obtain ⟨here, later⟩ := List.cons.inj placed
    have step : p.after first.val = p.advance := by
      rw [Position.after, if_neg, if_neg]
      · intro tab
        exact noTab (by simp [Segment.chars, tab])
      · intro feed
        exact noFeed (by simp [Segment.chars, feed])
    have rest := ih (p := p.advance) (by rw [← step]; exact later)
      (fun feed => noFeed (List.mem_cons_of_mem _ feed))
      (fun tab => noTab (List.mem_cons_of_mem _ tab))
    have stop := congrArg Span.stop rest
    have start : first.span.start = p := by rw [here]; rfl
    show (⟨first.span.start, ((second :: more).getLastD first).span.stop⟩ : Span) = _
    rw [List.getLastD_cons, start]
    refine congrArg (Span.mk p) (stop.trans ?_)
    show (⟨p.line, p.column + 1 + _⟩ : Position) = ⟨p.line, _⟩
    congr 1
    simp only [Segment.chars, List.map_cons, List.length_cons]
    omega

end Source

end TaskScript
