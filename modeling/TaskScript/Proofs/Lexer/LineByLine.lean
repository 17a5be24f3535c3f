import TaskScript.Proofs.Lexer.Fitting
import TaskScript.Proofs.Source.Lines

/-!
# Reading line by line

No lexeme and no comment goes beyond the end of its line, and a line feed is a segment of its own. So
whatever stands above a line does not matter to how the line is read, but for the numbers of the
lines.

* `Segment.cut_append`: what stands below a line feed is cut by itself.
* `Segment.cut_lower`: moving characters down moves their segments down.
* `Source.tokenize_append`: two texts, the first of which ends its last line, are read one after the
  other.
-/

namespace TaskScript

/-! ## Moving down -/

/-- The place some lines further down. -/
def Position.lower (lines : Nat) (p : Position) : Position := { p with line := p.line + lines }

/-- The span some lines further down. -/
def Span.lower (lines : Nat) (s : Span) : Span := ⟨s.start.lower lines, s.stop.lower lines⟩

/-- The same value, some lines further down. -/
def Located.lower {α : Type} (lines : Nat) (located : Located α) : Located α :=
  { located with span := located.span.lower lines }

theorem Position.after_lower (lines : Nat) (p : Position) (c : Char) :
    (p.lower lines).after c = (p.after c).lower lines := by
  unfold after
  split
  · show (⟨p.line + lines + 1, 1⟩ : Position) = ⟨p.line + 1 + lines, 1⟩
    rw [Nat.add_right_comm]
  split
  · rfl
  · rfl

theorem Source.place_lower (lines : Nat) (p : Position) (text : List Char) :
    place (p.lower lines) text = (place p text).map (·.lower lines) := by
  induction text generalizing p with
  | nil => rfl
  | cons c text ih =>
    rw [place, place, Position.after_lower, ih, List.map_cons]
    rfl

namespace Segment

/-- The same segment, some lines further down. -/
def lower (lines : Nat) : Segment → Segment
  | blank glyph => blank (glyph.lower lines)
  | comment slash more => comment (slash.lower lines) (more.map (·.lower lines))
  | lexeme first more token => lexeme (first.lower lines) (more.map (·.lower lines)) token
  | dropped glyph => dropped (glyph.lower lines)

variable (lines : Nat)

theorem chars_lower (glyphs : List Glyph) : chars (glyphs.map (·.lower lines)) = chars glyphs := by
  simp [chars, Located.lower, Function.comp_def]

theorem glyphs_lower (segment : Segment) :
    (segment.lower lines).glyphs = segment.glyphs.map (·.lower lines) := by
  cases segment <;> rfl

theorem token?_lower (segment : Segment) :
    (segment.lower lines).token? = segment.token?.map (·.lower lines) := by
  cases segment with
  | blank | comment | dropped => rfl
  | lexeme first more token =>
    simp only [lower, token?, List.getLastD_map]
    rfl

theorem warning?_lower (segment : Segment) :
    (segment.lower lines).warning? = segment.warning?.map (·.lower lines) := by
  cases segment <;> rfl

variable {lines}

/-- Whether a segment fits does not depend on where it stands. -/
theorem Fits.lower {segment : Segment} {following : List Glyph} (fits : segment.Fits following) :
    (segment.lower lines).Fits (following.map (·.lower lines)) := by
  have spelled : ∀ first more,
      chars (Located.lower lines first :: more.map (·.lower lines)) = chars (first :: more) :=
    fun first more => chars_lower lines (first :: more)
  cases segment with
  | blank => exact fits
  | comment => simpa only [Segment.lower, Fits, spelled, chars_lower] using fits
  | lexeme => simpa only [Segment.lower, Fits, spelled, chars_lower] using fits
  | dropped =>
    refine ⟨fits.1, ?_⟩
    rw [chars_lower]
    exact fits.2

theorem cut_lower {glyphs : List Glyph} (ends : EndsLine glyphs) :
    cut (glyphs.map (·.lower lines)) = (cut glyphs).map (Segment.lower lines) :=
  cut_map (fun segment _ => glyphs_lower lines segment)
    fun _ _ _ here => (fits_cut ends here).lower

/-! ## One line below another -/

/-- What is no blank has the end of its line behind it. -/
theorem feed_mem_following {segment : Segment} {following : List Glyph}
    (fits : segment.Fits following) (ends : EndsLine (segment.glyphs ++ following)) :
    (∃ glyph, segment = .blank glyph) ∨ '\n' ∈ chars following := by
  cases segment with
  | blank glyph => exact .inl ⟨glyph, rfl⟩
  | comment =>
    obtain ⟨-, -, -, feed⟩ := fits
    exact .inr (List.mem_of_head? feed)
  | lexeme first more token =>
    have feed : '\n' ∈ chars ((first :: more) ++ following) := ends.feed_mem
    rw [chars_append, List.mem_append] at feed
    exact .inr (feed.resolve_left (fits.blank_notMem (by decide)))
  | dropped glyph =>
    have feed : '\n' ∈ chars ([glyph] ++ following) := ends.feed_mem
    rw [chars_append, List.mem_append] at feed
    exact .inr (feed.resolve_left (fits.dropped_ne (by decide)))

/-- A segment fits as well if there are further lines below. -/
theorem Fits.append {segment : Segment} {following : List Glyph} (fits : segment.Fits following)
    (ends : EndsLine (segment.glyphs ++ following)) (below : List Glyph) :
    segment.Fits (following ++ below) := by
  rcases feed_mem_following fits ends with ⟨glyph, rfl⟩ | feed
  · exact fits
  · refine fits.transfer ?_ ?_
    · -- Part of a lexeme does not reach beyond the line feed.
      intro kind text more rest spells split
      have noFeed : '\n' ∉ text ++ more := spells.blank_notMem (by decide)
      rw [chars_append] at split
      rcases List.append_eq_append_iff.mp split with ⟨beyond, rfl, -⟩ | ⟨left, before, -⟩
      · exact absurd (List.mem_append_right text (List.mem_append_left beyond feed)) noFeed
      · exact ⟨left, before⟩
    · intro head
      rw [chars_append, List.head?_append, head]
      rfl

/-- What stands below a line feed is cut by itself. -/
theorem cut_append {above below : List Glyph} (ends : EndsLine above) (endsBelow : EndsLine below) :
    cut (above ++ below) = cut above ++ cut below := by
  have whole := cut_eq_of_fits (cut above ++ cut below) ?_
  · rw [List.flatMap_append, glyphs_cut, glyphs_cut] at whole
    exact whole
  · intro before segment after here
    rcases List.append_eq_append_iff.mp here with ⟨between, -, inBelow⟩ | ⟨left, inAbove, rest⟩
    · exact fits_cut endsBelow inBelow
    · cases left with
      | nil =>
        have isFirst : cut below = [] ++ segment :: after := rest.symm
        exact fits_cut endsBelow isFirst
      | cons other left =>
        obtain ⟨rfl, isRest⟩ : segment = other ∧ after = left ++ cut below := List.cons.inj rest
        have fits := fits_cut ends inAbove
        -- The segment and what follows it in the text above end where that text does.
        rw [← glyphs_cut above, inAbove, List.flatMap_append, List.flatMap_cons] at ends
        rw [isRest, List.flatMap_append, glyphs_cut]
        exact fits.append ends.of_append below

end Segment

namespace Source

/-- The characters of two texts, the first of which ends its last line. -/
theorem glyphs_append (name : String) {above : String}
    (ends : above = "" ∨ ∃ before, above = before ++ "\n") (below : String) :
    (ofText name (above ++ below)).glyphs = (ofText name above).glyphs ++
      (ofText name below).glyphs.map (·.lower (ofText name above).lines.length) := by
  have endsList : above.toList = [] ∨ ∃ before, above.toList = before ++ ['\n'] := by
    rcases ends with rfl | ⟨before, rfl⟩
    · exact .inl rfl
    · exact .inr ⟨before.toList, String.toList_append⟩
  have lines : (ofText name (above ++ below)).lines =
      (ofText name above).lines ++ (ofText name below).lines := by
    unfold ofText
    rw [String.toList_append, cutLines_append endsList, List.map_append]
  have start : Position.past {} (unlines (ofText name above).lines) =
      Position.lower (ofText name above).lines.length {} :=
    past_unlines rfl (feed_notMem_lines name above)
  rw [glyphs_eq_place, lines, unlines, List.flatMap_append, place_append]
  refine congrArg (_ ++ ·) ?_
  rw [← unlines, start, place_lower]
  rfl

/-- Nothing is carried across the end of a line: where the first of two texts is empty or ends its
last line, its tokens and warnings come first, and those of the second come behind them as they are
by themselves, further down by as many lines as the first text has. -/
theorem tokenize_append (name above below : String)
    (ends : above = "" ∨ ∃ before, above = before ++ "\n") :
    let first := (ofText name above).tokenize
    let second := (ofText name below).tokenize
    let lines := (ofText name above).lines.length
    (ofText name (above ++ below)).tokenize =
      ⟨first.tokens ++ second.tokens.map (·.lower lines),
        first.warnings ++ second.warnings.map (·.lower lines)⟩ := by
  intro first second lines
  have isFirst : first = _ := tokenize_eq_cut _
  have isSecond : second = _ := tokenize_eq_cut _
  have endsBelow := (ofText name below).endsLine_glyphs
  have endsLower : Segment.EndsLine ((ofText name below).glyphs.map (·.lower lines)) := by
    unfold Segment.EndsLine
    rw [Segment.chars_lower]
    exact endsBelow
  rw [tokenize_eq_cut, glyphs_append name ends below,
    Segment.cut_append (ofText name above).endsLine_glyphs endsLower, Segment.cut_lower endsBelow,
    isFirst, isSecond]
  simp only [List.filterMap_append, List.filterMap_map, List.map_filterMap, Function.comp_def,
    Segment.token?_lower, Segment.warning?_lower]

/-- A slash that ends a line and one that begins the next are no comment, and the tab behind the
second counts from the start of its own line. -/
theorem tokenize_slashes :
    (ofText "" ("a /\r\n" ++ "/\tb $")).tokenize =
      ⟨[⟨.identifier "a", ⟨⟨1, 1⟩, ⟨1, 2⟩⟩⟩, ⟨.operator '/', ⟨⟨1, 3⟩, ⟨1, 4⟩⟩⟩,
          ⟨.operator '/', ⟨⟨2, 1⟩, ⟨2, 2⟩⟩⟩, ⟨.identifier "b", ⟨⟨2, 5⟩, ⟨2, 6⟩⟩⟩],
        [⟨.badChar '$', ⟨⟨2, 7⟩, ⟨2, 8⟩⟩⟩]⟩ := by
  rw [tokenize_append "" "a /\r\n" "/\tb $" (.inr ⟨"a /\r", by decide⟩)]
  decide +kernel

end Source

end TaskScript
