import TaskScript.Proofs.Source.Carets
import TaskScript.Proofs.Source.Rows
import TaskScript.Proofs.Text.Numeral

/-!
# Excerpts that messages show

A message may be about the stretch from any character of a source to any other, over several lines
or backwards. What is printed for it is then an excerpt of the source behind a margin, and carets
under the place where the stretch starts. The margin is as wide as the number of the last line, and
every number shown fits into it since no line behind the last one is shown.

* `Mark`: a message about two characters of a source.
* `Mark.start_lt_stop_iff`: a stretch in one line starts before it stops exactly if its characters
  are in order.
* `Diagnostics.Shows`: what is to be printed for a mark.
* `Diagnostics.lines_show_marks`: what is printed for any marks, up to the first whose carets cannot
  be set.
-/

namespace TaskScript

/-! ## Marks -/

/-- A message about the characters of a source from one to another, in either order. -/
structure Mark (source : Source) where
  words : String
  first : Fin source.glyphs.length
  last : Fin source.glyphs.length

namespace Mark

variable {source : Source}

/-- From the start of the first character to the stop of the last one. -/
def span (mark : Mark source) : Span :=
  (source.glyphs.get mark.first).span.through (source.glyphs.get mark.last).span

/-- The mark as messages carry it. -/
def message (mark : Mark source) : Located String := ⟨mark.words, mark.span⟩

theorem span_start (mark : Mark source) :
    mark.span.start = (source.glyphs.get mark.first).span.start := rfl

theorem span_stop (mark : Mark source) :
    mark.span.stop = (source.glyphs.get mark.last).span.stop := rfl

end Mark

namespace Source

/-- Characters start in their order. -/
theorem start_le_start_iff {source : Source} {i j : Fin source.glyphs.length} :
    (source.glyphs.get i).span.start ≤ (source.glyphs.get j).span.start ↔ i ≤ j := by
  have before : ∀ {i j : Fin source.glyphs.length}, i < j →
      (source.glyphs.get i).span.start < (source.glyphs.get j).span.start := by
    intro i j before
    have apart := List.pairwise_iff_get.mp source.pairwise_glyphs i j before
    have member : source.glyphs.get i ∈ place {} (unlines source.lines) := List.get_mem _ i
    rw [span_of_mem_place member] at apart
    exact Position.lt_of_lt_of_le (Position.lt_advance _) apart
  constructor
  · intro notBehind
    by_contra behind
    exact Position.not_le_of_lt (before (Nat.lt_of_not_le behind)) notBehind
  · intro inOrder
    rcases Nat.lt_or_eq_of_le inOrder with earlier | same
    · exact Position.le_of_lt (before earlier)
    · rw [Fin.ext same]
      exact Position.le_refl _

end Source

namespace Mark

variable {name text : String} (mark : Mark (Source.ofText name text))

theorem start_counted : mark.span.start.IsCounted := by
  obtain ⟨counted, -, -⟩ := Source.place_of_mem_glyphs (List.get_mem _ mark.first)
  rw [span_start]
  exact counted

/-- A mark stops one column behind the start of its last character. -/
theorem stop_eq :
    mark.span.stop = ((Source.ofText name text).glyphs.get mark.last).span.start.advance := by
  obtain ⟨-, -, single⟩ := Source.place_of_mem_glyphs (List.get_mem _ mark.last)
  rw [span_stop, single, Span.single]

theorem stop_line_le : mark.span.stop.line ≤ (Source.ofText name text).lines.length := by
  obtain ⟨-, inside, -⟩ := Source.place_of_mem_glyphs (List.get_mem _ mark.last)
  rw [stop_eq]
  generalize ((Source.ofText name text).glyphs.get mark.last).span.start = last at inside ⊢
  exact inside

/-- In one line, a mark starts before it stops exactly if its characters are in order. -/
theorem start_lt_stop_iff (sameLine : mark.span.stop.line = mark.span.start.line) :
    mark.span.start.column < mark.span.stop.column ↔ mark.first ≤ mark.last := by
  rw [stop_eq, span_start] at sameLine ⊢
  rw [← Source.start_le_start_iff, Position.le_def]
  generalize ((Source.ofText name text).glyphs.get mark.first).span.start = start at sameLine ⊢
  generalize ((Source.ofText name text).glyphs.get mark.last).span.start = last at sameLine ⊢
  have line : last.line = start.line := sameLine
  show start.column < last.column + 1 ↔ _
  omega

end Mark

namespace Diagnostics

/-! ## What is underlined -/

/-- What is underlined begins in a column of the line and does not end before it. -/
theorem underline_counted {span : Span} (counted : 1 ≤ span.start.column) :
    (underline span).1 = span.start.column ∧ 1 ≤ (underline span).1 ∧
      (underline span).1 ≤ (underline span).2 := by
  unfold underline
  simp only
  split
  · exact ⟨rfl, counted, Nat.le_max_right _ _⟩
  · exact ⟨rfl, counted, Nat.le_refl _⟩

theorem underline_forward {span : Span} (sameLine : span.stop.line = span.start.line)
    (forward : span.start.column < span.stop.column) :
    (underline span).2 + 1 = span.stop.column := by
  unfold underline
  rw [if_pos sameLine]
  show max (span.stop.column - 1) span.start.column + 1 = span.stop.column
  omega

/-- A span over several lines and one that runs backwards are marked at their start only. -/
theorem underline_point {span : Span} (point : span.stop.line = span.start.line →
      span.stop.column ≤ span.start.column) : (underline span).2 = (underline span).1 := by
  unfold underline
  split
  case isTrue sameLine =>
    have backward := point sameLine
    show max (span.stop.column - 1) span.start.column = span.start.column
    omega
  case isFalse => rfl

/-! ## Ruled lines -/

/-- A printed line with a bar behind a margin of some width, in which there is no other bar. -/
structure IsRuled (width : Nat) (margin content line : String) : Prop where
  line_eq : line = margin ++ " |" ++ content
  length_margin : margin.length = width
  clear : '|' ∉ margin.toList

theorem length_spaces (n : Nat) : (spaces n).length = n := by
  simp [spaces]

theorem isRuled_spaces (width : Nat) (content : String) :
    IsRuled width (spaces width) content (spaces width ++ " |" ++ content) where
  line_eq := rfl
  length_margin := length_spaces width
  clear := by simp [spaces]

/-- A number that is not wider than the margin is put at its right. -/
theorem isRuled_padLeft {width n : Nat} (fits : (Numeral.decimal n).length ≤ width)
    (content : String) :
    IsRuled width (spaces (width - (Numeral.decimal n).length) ++ Numeral.decimal n) content
      (padLeft width n ++ " |" ++ content) where
  line_eq := rfl
  length_margin := by
    rw [String.length_append, length_spaces, Nat.sub_add_cancel fits]
  clear := by
    have noDigit : '|' ∉ Nat.toDigits 10 n :=
      Numeral.notMem_toDigits (by decide) (by decide) (by decide) n
    simpa [spaces, Numeral.decimal] using noDigit

/-! ## What marks show -/

/-- What is printed for a mark. Behind its words and its place comes an excerpt, the lines of the
source from the one in which the mark starts to the one in which it stops, none of them missing from
the source. The line before the excerpt, those of the excerpt and the one with the carets have their
bars behind margins of the same width, and numbers stand at the right of the margin. The carets
start under the start of the mark. They reach to its stop if it lies in one line and its characters
are in order, and otherwise there is one. -/
inductive Shows {source : Source} (kind : String) (mark : Mark source) : List String → Prop
  | intro {width low high : Nat} {gutter pointer : String} {numbers : List Nat}
      {excerpt : List String}
      (wide : width = (Numeral.decimal mark.span.stop.line).length)
      (blank : IsRuled width (spaces width) "" gutter)
      (numbered : ∀ n, n ∈ numbers ↔ mark.span.start.line ≤ n ∧ n ≤ mark.span.stop.line)
      (ordered : numbers.Pairwise (· < ·))
      (shown : List.Forall₂ (fun n printed => ∃ gap line, source.line? n = some line ∧
        IsRuled width (spaces gap ++ Numeral.decimal n) (" " ++ line) printed) numbers excerpt)
      (upwards : mark.span.stop.line < mark.span.start.line → excerpt = [])
      (columns : underline mark.span = (low, high))
      (start : low = mark.span.start.column)
      (counted : 1 ≤ low)
      (nonempty : low ≤ high)
      (forward : mark.span.stop.line = mark.span.start.line → mark.first ≤ mark.last →
        high + 1 = mark.span.stop.column)
      (point : mark.span.stop.line ≠ mark.span.start.line ∨ mark.last < mark.first → high = low)
      (carets : IsRuled width (spaces width) (" " ++ spaces (low - 1) ++
        String.ofList (List.replicate (high - low + 1) '^')) pointer) :
      Shows kind mark ([kind ++ ": " ++ mark.words, " --> " ++ mark.span.text source.name,
        gutter] ++ excerpt ++ [pointer, ""])

/-- The lines of a message, each with its bar and what stands behind the bar. -/
theorem block_eq_ruled (source : Source) (kind words : String) (span : Span) :
    let width := (Numeral.decimal span.stop.line).length
    block source kind ⟨words, span⟩ =
      [kind ++ ": " ++ words, " --> " ++ span.text source.name, spaces width ++ " |" ++ ""] ++
      (List.range' span.start.line (span.stop.line + 1 - span.start.line)).map (fun n =>
        padLeft width n ++ " |" ++ (" " ++ (source.line? n).getD "")) ++
      [spaces width ++ " |" ++ (" " ++ spaces ((underline span).1 - 1) ++
        String.ofList (List.replicate ((underline span).2 - (underline span).1 + 1) '^')), ""] := by
  have bar : " | " = " |" ++ " " := by decide
  simp only [block, excerpt, caretLine, bar, String.append_assoc, String.append_empty]

variable {name text : String}

theorem block_shows (kind : String) (mark : Mark (Source.ofText name text)) :
    Shows kind mark (block (Source.ofText name text) kind mark.message) := by
  obtain ⟨firstLine, firstColumn⟩ := mark.start_counted
  have lastLine := mark.stop_line_le
  obtain ⟨start, counted, nonempty⟩ := underline_counted firstColumn
  have numbered : ∀ n, n ∈ List.range' mark.span.start.line
      (mark.span.stop.line + 1 - mark.span.start.line) ↔
      mark.span.start.line ≤ n ∧ n ≤ mark.span.stop.line := by
    intro n
    rw [List.mem_range'_1]
    omega
  show Shows kind mark (block (Source.ofText name text) kind ⟨mark.words, mark.span⟩)
  rw [block_eq_ruled]
  refine .intro rfl (isRuled_spaces _ _) numbered List.pairwise_lt_range' ?shown ?upwards
    (Prod.eta (underline mark.span)).symm start counted nonempty ?forward ?point
    (isRuled_spaces _ _)
  case shown =>
    rw [List.forall₂_map_right_iff, List.forall₂_same]
    intro n member
    obtain ⟨notAbove, notBelow⟩ := (numbered n).mp member
    obtain ⟨line, -, present⟩ := Source.exists_line? (Nat.le_trans firstLine notAbove)
      (Nat.le_trans notBelow lastLine)
    have found : ((Source.ofText name text).line? n).getD "" = line := by
      rw [present]
      rfl
    rw [found]
    exact ⟨_, line, present, isRuled_padLeft (Numeral.length_decimal_mono notBelow) (" " ++ line)⟩
  case upwards =>
    intro upwards
    have noLines : mark.span.stop.line + 1 - mark.span.start.line = 0 := by omega
    rw [noLines, List.range'_zero, List.map_nil]
  case forward =>
    intro sameLine inOrder
    exact underline_forward sameLine ((mark.start_lt_stop_iff sameLine).mpr inOrder)
  case point =>
    intro point
    have backward : mark.span.stop.line = mark.span.start.line →
        mark.span.stop.column ≤ mark.span.start.column := by
      intro sameLine
      have outOfOrder := point.resolve_left (not_not_intro sameLine)
      rw [← Nat.not_lt, mark.start_lt_stop_iff sameLine]
      exact Nat.not_le_of_lt outOfOrder
    exact underline_point backward

/-- For any messages about stretches between characters of a source, what is printed are the lines
that each of them shows, one after the other, and a line that counts them. So it is as long as all
carets can be set: at a message that starts too far to the right, or that is too long in one line,
printing breaks off above its carets. -/
theorem lines_show_marks (name text kind : String) (marks : List (Mark (Source.ofText name text))) :
    let source := Source.ofText name text
    let d : Diagnostics := { source, kind, messages := marks.map Mark.message }
    (marks = [] → d.lines = .ok ["No " ++ kind ++ "s were reported"]) ∧
    (marks ≠ [] → ∃ shown : List (List String),
      List.Forall₂ (Shows kind) marks shown ∧
      d.Prints (fun message => message.span.start.column ≤ fieldLimit + 1 ∧
        (message.span.stop.line = message.span.start.line →
          message.span.stop.column ≤ message.span.start.column + fieldLimit)) shown) := by
  intro source d
  constructor
  · rintro rfl
    rfl
  · intro some
    refine ⟨d.messages.map (block source kind), ?_,
      prints (mt List.map_eq_nil_iff.mp some) fun _ _ => Iff.rfl⟩
    rw [List.map_map, List.forall₂_map_right_iff, List.forall₂_same]
    intro mark _
    exact block_shows kind mark

/-- From line nine to line ten, from behind a tab. -/
example : block (.ofText "f" "\n\n\n\n\n\n\n\n\ta b\nc") "error" ⟨"here", ⟨⟨9, 5⟩, ⟨10, 2⟩⟩⟩ =
    ["error: here", " --> f:9:5", "   |", " 9 | \ta b", "10 | c", "   |     ^", ""] := by
  decide +kernel

/-- From the first character of the line to the sign that stands behind blanks. -/
theorem span_of_whole_line {name : String} {width : Nat}
    (mark : Mark (Source.ofText name (signBehind width))) (first : mark.first.val = 0)
    (last : mark.last.val = width) : mark.span = ⟨⟨1, 1⟩, ⟨1, 2 + width⟩⟩ := by
  have found (i : Fin (Source.ofText name (signBehind width)).glyphs.length) :
      (Source.ofText name (signBehind width)).glyphs[i.val]? = some (List.get _ i) :=
    List.getElem?_eq_getElem i.isLt
  have head : ∃ c, (Source.ofText name (signBehind width)).glyphs[0]? =
      some ⟨c, Span.single ⟨1, 1⟩⟩ := by
    rw [glyphs_signBehind]
    cases width with
    | zero => exact ⟨'#', rfl⟩
    | succ width => exact ⟨' ', rfl⟩
  have sign : (Source.ofText name (signBehind width)).glyphs[width]? =
      some ⟨'#', Span.single ⟨1, 1 + width⟩⟩ := by
    have before : (Source.place {} (List.replicate width ' ')).length = width := by
      rw [Source.length_place, List.length_replicate]
    rw [glyphs_signBehind, List.getElem?_append_right (Nat.le_of_eq before), before, Nat.sub_self]
    rfl
  obtain ⟨c, head⟩ := head
  have start := found mark.first
  have stop := found mark.last
  rw [first, head] at start
  rw [last, sign] at stop
  have next : (⟨1, 1 + width⟩ : Position).advance = ⟨1, 2 + width⟩ := by
    show (⟨1, 1 + width + 1⟩ : Position) = _
    rw [Nat.add_right_comm]
  rw [Mark.span, ← Option.some.inj start, ← Option.some.inj stop, ← next]
  rfl

/-- A stretch that is too long is told of without a caret, though it starts in the first column. -/
theorem long_mark_has_no_caret :
    let source := Source.ofText "<input>" (signBehind 65535)
    ∃ mark : Mark source, mark.words = LexWarning.message (.badChar ' ') ∧
      mark.first.val = 0 ∧ mark.last.val = 65535 ∧
      lines { source, messages := [mark.message] } =
        .error ["error: Bad character ' ' in input stream, dropped",
          " --> <input>:[1:1-1:65536]", "  |", "1 | " ++ signBehind 65535] := by
  intro source
  have length : source.glyphs.length = 65537 := by
    rw [glyphs_signBehind, List.length_append, Source.length_place, List.length_replicate]
    rfl
  let mark : Mark source :=
    ⟨LexWarning.message (.badChar ' '), ⟨0, by omega⟩, ⟨65535, by omega⟩⟩
  have span : mark.span = ⟨⟨1, 1⟩, ⟨1, 65537⟩⟩ := span_of_whole_line mark rfl rfl
  have wide : ¬ Settable ⟨⟨1, 1⟩, ⟨1, 65537⟩⟩ := fun settable => absurd (settable.2 rfl) (by decide)
  have printed := lines_of_wide_span "<input>" "error" (LexWarning.message (.badChar ' ')) 65535
    rfl rfl wide
  have words : "error" ++ ": " ++ LexWarning.message (.badChar ' ') =
      "error: Bad character ' ' in input stream, dropped" := by decide +kernel
  have place : " --> " ++ Span.text "<input>" ⟨⟨1, 1⟩, ⟨1, 65537⟩⟩ =
      " --> <input>:[1:1-1:65536]" := by decide +kernel
  rw [words, place, ← span] at printed
  exact ⟨mark, rfl, rfl, rfl, printed⟩

end Diagnostics

end TaskScript
