import TaskScript.Proofs.Lexer.Spans
import TaskScript.Proofs.Pipeline.Independence
import TaskScript.Proofs.Source.Lines

/-!
# Dropping a character is blanking it

A character that is dropped separates what stands around it, as a blank does, and it is as wide as a
space. So a text from which characters are dropped is read as the text in which a space stands for
each of them, every token at its place, and the second text has nothing to warn about. To compile the
second text strictly is to compile the first one leniently.

* `Source.blanked`: the text with spaces for the characters that are warned about.
* `Source.glyphs_blanked`: the lines, and the places of all characters, stay as they are.
* `Source.cut_blanked`: the characters that are dropped become blanks, and no other segment changes.
* `Pipeline.compile_blanked`: how the text with spaces is read and compiled.
-/

namespace TaskScript

/-! ## Spaces for characters -/

/-- A space if there is a warning about the character at this place, and else the character. -/
def blankChar (warnings : List (Located LexWarning)) (p : Position) (c : Char) : Char :=
  if ⟨.badChar c, Span.single p⟩ ∈ warnings then ' ' else c

namespace Source

/-- The text with a space for each character that there is a warning about. The first character
stands at the given position. -/
def blankOut (warnings : List (Located LexWarning)) (p : Position) : List Char → List Char
  | [] => []
  | c :: rest => blankChar warnings p c :: blankOut warnings (p.after c) rest

/-- The text with a space for each character that is dropped when it is read. -/
def blanked (name text : String) : String :=
  String.ofList (blankOut (ofText name text).tokenize.warnings {} text.toList)

end Source

/-- Other blanks than the space stand where they stood. -/
theorem eq_of_blankChar_eq {warnings : List (Located LexWarning)} {p : Position} {c d : Char}
    (other : d ≠ ' ') (same : blankChar warnings p c = d) : c = d := by
  unfold blankChar at same
  split at same
  · exact absurd same.symm other
  · exact same

/-- No warning is about a blank. -/
def SparesBlanks (warnings : List (Located LexWarning)) : Prop :=
  ∀ c span, ⟨.badChar c, span⟩ ∈ warnings → isBlank c = false

theorem SparesBlanks.blankChar_eq {warnings : List (Located LexWarning)}
    (spares : SparesBlanks warnings) (p : Position) {c : Char} (blank : isBlank c = true) :
    blankChar warnings p c = c := by
  unfold blankChar
  rw [if_neg]
  intro warned
  rw [spares c _ warned] at blank
  cases blank

/-- A space is as wide as what it stands for. -/
theorem SparesBlanks.after_blankChar {warnings : List (Located LexWarning)}
    (spares : SparesBlanks warnings) (p : Position) (c : Char) :
    p.after (blankChar warnings p c) = p.after c := by
  unfold blankChar
  split
  case isTrue warned =>
    have notBlank := spares c _ warned
    have notFeed : c ≠ '\n' := by
      rintro rfl
      cases notBlank
    have notTab : c ≠ '\t' := by
      rintro rfl
      cases notBlank
    unfold Position.after
    rw [if_neg notFeed, if_neg notTab]
    rfl
  case isFalse => rfl

namespace Source

variable {warnings : List (Located LexWarning)}

theorem inLine_blankOut {p q : Position} {c : Char} {rest : List Char} (inLine : InLine c rest) :
    InLine (blankChar warnings p c) (blankOut warnings q rest) := by
  constructor
  · intro feed
    exact inLine.1 (eq_of_blankChar_eq (by decide) feed)
  · intro isReturn more isFeed
    have wasReturn := eq_of_blankChar_eq (by decide) isReturn
    cases rest with
    | nil => cases isFeed
    | cons d rest =>
      have wasFeed := eq_of_blankChar_eq (by decide) (List.cons.inj isFeed).1
      exact inLine.2 wasReturn rest (by rw [wasFeed])

/-- Lines end where they did. -/
theorem normalized_blankOut (spares : SparesBlanks warnings) (p : Position) (text : List Char) :
    normalized (blankOut warnings p text) = blankOut warnings p (normalized text) := by
  have feed : ∀ p, blankChar warnings p '\n' = '\n' := fun p => spares.blankChar_eq p (by decide)
  have ret : ∀ p, blankChar warnings p '\r' = '\r' := fun p => spares.blankChar_eq p (by decide)
  induction text using lines_induction generalizing p with
  | empty => rfl
  | feed rest ih => rw [normalized_feed, blankOut, blankOut, feed, normalized_feed, ih]
  | ret rest ih =>
    rw [normalized_return, blankOut, blankOut, blankOut, ret, feed, feed, normalized_return, ih]
    rfl
  | last c notFeed =>
    have still : blankChar warnings p c ≠ '\n' := fun same =>
      notFeed (eq_of_blankChar_eq (by decide) same)
    simp only [normalized_last notFeed, blankOut, feed, normalized_last still]
  | cons c rest inLine more ih =>
    have moreBlanked : blankOut warnings (p.after c) rest ≠ [] := by
      cases rest with
      | nil => exact absurd rfl more
      | cons => exact List.cons_ne_nil _ _
    rw [normalized_cons inLine more, blankOut, blankOut,
      normalized_cons (inLine_blankOut inLine) moreBlanked, ih]

/-- The character with its place, and a space for it if there is a warning about it. -/
def blankGlyph (warnings : List (Located LexWarning)) (glyph : Glyph) : Glyph :=
  if ⟨.badChar glyph.val, glyph.span⟩ ∈ warnings then { glyph with val := ' ' } else glyph

/-- What did not become a space is as it was. -/
theorem blankGlyph_eq_of_ne {glyph : Glyph} (noSpace : (blankGlyph warnings glyph).val ≠ ' ') :
    blankGlyph warnings glyph = glyph := by
  unfold blankGlyph at noSpace ⊢
  split
  case isTrue warned =>
    rw [if_pos warned] at noSpace
    exact absurd rfl noSpace
  case isFalse => rfl

theorem blankGlyph_eq_of_isBlank (spares : SparesBlanks warnings) {glyph : Glyph}
    (blank : isBlank glyph.val = true) : blankGlyph warnings glyph = glyph := by
  unfold blankGlyph
  rw [if_neg]
  intro warned
  rw [spares _ _ warned] at blank
  cases blank

/-- All characters stand where they stood. -/
theorem place_blankOut (spares : SparesBlanks warnings) (p : Position) (text : List Char) :
    place p (blankOut warnings p text) = (place p text).map (blankGlyph warnings) := by
  induction text generalizing p with
  | nil => rfl
  | cons c text ih =>
    have here : (⟨blankChar warnings p c, Span.single p⟩ : Glyph) =
        blankGlyph warnings ⟨c, Span.single p⟩ := by
      unfold blankChar blankGlyph
      split <;> rfl
    rw [blankOut, place, place, List.map_cons, spares.after_blankChar, ih, here]

/-- What is dropped is no blank. -/
theorem sparesBlanks (source : Source) : SparesBlanks source.tokenize.warnings := by
  intro c span warned
  obtain ⟨earlier, glyph, later, here, same⟩ := exists_dropped warned
  cases same
  exact (Segment.fits_cut source.endsLine_glyphs here).1

theorem glyphs_blanked (name text : String) :
    (ofText name (blanked name text)).glyphs =
      (ofText name text).glyphs.map (blankGlyph (ofText name text).tokenize.warnings) := by
  have spares := (ofText name text).sparesBlanks
  rw [glyphs_ofText, blanked, String.toList_ofList, normalized_blankOut spares,
    place_blankOut spares, ← glyphs_ofText]

end Source

/-! ## Blanks for dropped characters -/

namespace Segment

/-- A blank in place of a dropped character, and any other segment as it is. -/
def blankDropped : Segment → Segment
  | dropped glyph => blank { glyph with val := ' ' }
  | segment => segment

theorem token?_blankDropped (segment : Segment) : segment.blankDropped.token? = segment.token? := by
  cases segment <;> rfl

theorem warning?_blankDropped (segment : Segment) : segment.blankDropped.warning? = none := by
  cases segment <;> rfl

/-- Segments that have a character in common are one, if all characters differ. -/
theorem eq_of_mem_glyphs {segments : List Segment} (distinct : (segments.flatMap glyphs).Nodup)
    {segment other : Segment} (isSegment : segment ∈ segments) (isOther : other ∈ segments)
    {glyph : Glyph} (within : glyph ∈ segment.glyphs) (withinOther : glyph ∈ other.glyphs) :
    segment = other := by
  induction segments with
  | nil => cases isSegment
  | cons first segments ih =>
    rw [List.flatMap_cons, List.nodup_append] at distinct
    obtain ⟨-, later, apart⟩ := distinct
    rcases List.mem_cons.mp isSegment with rfl | inLater
    · rcases List.mem_cons.mp isOther with rfl | otherLater
      · rfl
      · exact absurd rfl (apart glyph within glyph (List.mem_flatMap_of_mem otherLater withinOther))
    · rcases List.mem_cons.mp isOther with rfl | otherLater
      · exact absurd rfl (apart glyph withinOther glyph (List.mem_flatMap_of_mem inLater within))
      · exact ih later inLater otherLater

/-- There is a warning about a character just if it is dropped. -/
theorem warned_iff {segments : List Segment} (distinct : (segments.flatMap glyphs).Nodup)
    {segment : Segment} (isSegment : segment ∈ segments) {glyph : Glyph}
    (within : glyph ∈ segment.glyphs) :
    ⟨.badChar glyph.val, glyph.span⟩ ∈ segments.filterMap warning? ↔ segment = dropped glyph := by
  constructor
  · intro warned
    obtain ⟨other, isOther, given⟩ := List.mem_filterMap.mp warned
    cases other with
    | blank | comment | lexeme => cases given
    | dropped other =>
      have same : other = glyph := by
        obtain ⟨c, span⟩ := other
        cases given
        rfl
      rw [same] at isOther
      exact eq_of_mem_glyphs distinct isSegment isOther within List.mem_cons_self
  · rintro rfl
    exact List.mem_filterMap.mpr ⟨_, isSegment, rfl⟩

theorem map_blankGlyph {segments : List Segment} (distinct : (segments.flatMap glyphs).Nodup)
    {segment : Segment} (isSegment : segment ∈ segments) :
    segment.glyphs.map (Source.blankGlyph (segments.filterMap warning?)) =
      segment.blankDropped.glyphs := by
  have kept : (∀ glyph, segment ≠ dropped glyph) →
      segment.glyphs.map (Source.blankGlyph (segments.filterMap warning?)) = segment.glyphs := by
    intro notDropped
    refine (List.map_congr_left ?_).trans (List.map_id' _)
    intro glyph within
    unfold Source.blankGlyph
    rw [if_neg]
    rw [warned_iff distinct isSegment within]
    exact notDropped glyph
  cases segment with
  | blank | comment | lexeme =>
    refine kept ?_
    intro glyph same
    cases same
  | dropped glyph =>
    have warned := (warned_iff distinct isSegment List.mem_cons_self).mpr rfl
    show [Source.blankGlyph _ glyph] = [{ glyph with val := ' ' }]
    unfold Source.blankGlyph
    rw [if_pos warned]

/-- A segment still fits when characters behind it other than blanks become spaces. -/
theorem Fits.blankGlyph {warnings : List (Located LexWarning)} (spares : SparesBlanks warnings)
    {segment : Segment} {following : List Glyph} (fits : segment.Fits following) :
    segment.Fits (following.map (Source.blankGlyph warnings)) := by
  refine fits.transfer ?_ ?_
  · -- Part of a lexeme holds no space, and so it was there before.
    intro kind text more rest spells split
    rw [chars, List.map_map] at split
    obtain ⟨taken, left, rfl, isMore, -⟩ := List.map_eq_append_iff.mp split
    refine ⟨chars left, ?_⟩
    have same : chars taken = more := by
      rw [← isMore]
      refine List.map_congr_left ?_
      intro glyph within
      have noSpace : (Source.blankGlyph warnings glyph).val ≠ ' ' := by
        intro space
        have inMore : ' ' ∈ more := by
          rw [← isMore, ← space]
          exact List.mem_map_of_mem within
        exact spells.blank_notMem (by decide) (List.mem_append_right text inMore)
      exact congrArg Located.val (Source.blankGlyph_eq_of_ne noSpace).symm
    rw [chars_append, same]
  · intro head
    cases following with
    | nil => cases head
    | cons glyph following =>
      have feed : glyph.val = '\n' := Option.some.inj head
      have blank : isBlank glyph.val = true := by
        rw [feed]
        decide
      rw [List.map_cons, Source.blankGlyph_eq_of_isBlank spares blank]
      exact head

end Segment

namespace Source

/-- No two characters of a source stand at one place. -/
theorem nodup_glyphs (source : Source) : source.glyphs.Nodup := by
  refine source.pairwise_glyphs.imp_of_mem ?_
  rintro a _ isGlyph _ before rfl
  have width := span_of_mem_place isGlyph
  rw [width] at before
  exact Position.not_le_of_lt (Position.lt_advance _) before

/-- The characters that are dropped become blanks, and no other segment changes. -/
theorem cut_blanked (source : Source) :
    Segment.cut (source.glyphs.map (blankGlyph source.tokenize.warnings)) =
      (Segment.cut source.glyphs).map Segment.blankDropped := by
  have distinct : ((Segment.cut source.glyphs).flatMap Segment.glyphs).Nodup := by
    rw [Segment.glyphs_cut]
    exact source.nodup_glyphs
  refine Segment.cut_map ?_ ?_
  · intro segment isSegment
    rw [tokenize_eq_cut]
    exact (Segment.map_blankGlyph distinct isSegment).symm
  · intro before segment after here
    have fits := Segment.fits_cut source.endsLine_glyphs here
    cases segment with
    | dropped => rfl
    | blank | comment | lexeme => exact fits.blankGlyph source.sparesBlanks

/-- The text with spaces is read as the text is, with nothing to warn about. -/
theorem tokenize_blanked (name text : String) :
    (ofText name (blanked name text)).tokenize = ⟨(ofText name text).tokenize.tokens, []⟩ := by
  rw [tokenize_eq_cut, glyphs_blanked, cut_blanked, tokenize_eq_cut (ofText name text)]
  simp [List.filterMap_map, Segment.token?_blankDropped, Segment.warning?_blankDropped]

end Source

/-! ## Strict and lenient compilation -/

theorem AlikeButJobs.isOk_eq {result result' : Except CompileError Compiled}
    (alike : AlikeButJobs result result') : result.isOk = result'.isOk := by
  cases alike <;> rfl

namespace Pipeline

/-- The pipeline made strict, or lenient. -/
def withStrictness (p : Pipeline) (strict : Bool) : Pipeline :=
  { p with config := { p.config with options := { p.config.options with strictLex := strict } } }

/-- Where nothing is dropped, strictness does not matter. -/
theorem Ends.strictly {p : Pipeline} {plan : Plan} {read : Tokens}
    {result : Except CompileError Compiled} (ends : (p.withStrictness false).Ends plan read result) :
    (p.withStrictness true).Ends plan ⟨read.tokens, []⟩
      (result.map fun compiled => { compiled with warnings := [] }) := by
  cases ends with
  | rejected _ strict => cases strict
  | unparsed _ failed => exact .unparsed (.inl rfl) failed
  | unstarted _ succeeded fault => exact .unstarted (.inl rfl) succeeded fault
  | broken _ succeeded starts refused => exact .broken (.inl rfl) succeeded starts refused
  | done _ succeeded starts accepted => exact .done (.inl rfl) succeeded starts accepted

/-- The text in which a space stands for each character that is dropped has the tokens of the text,
each with its span, and no warnings. Compiled strictly it comes to what the text comes to leniently,
but for the warnings. It compiles just if the text does, also if others move first then, where the
threads for the jobs start both times. -/
theorem compile_blanked (name text : String) :
    let blanked := Source.blanked name text
    (Source.ofText name blanked).tokenize.tokens = (Source.ofText name text).tokenize.tokens ∧
    (Source.ofText name blanked).tokenize.warnings = [] ∧
    (∀ (p : Pipeline) (plan : Plan),
      ((p.withStrictness true).compileUnder plan name blanked).result =
        ((p.withStrictness false).compileUnder plan name text).result.map
          fun compiled => { compiled with warnings := [] }) ∧
    ∀ (p : Pipeline) (plan plan' : Plan), p.PoolStarts plan → p.PoolStarts plan' →
      ((p.withStrictness true).compileUnder plan name blanked).result.isOk =
        ((p.withStrictness false).compileUnder plan' name text).result.isOk := by
  intro blanked
  have read := Source.tokenize_blanked name text
  have same : ∀ (p : Pipeline) (plan : Plan),
      ((p.withStrictness true).compileUnder plan name blanked).result =
        ((p.withStrictness false).compileUnder plan name text).result.map
          fun compiled => { compiled with warnings := [] } := by
    intro p plan
    have ends := ((p.withStrictness false).compileUnder_ends plan name text).strictly
    rw [← read] at ends
    exact ends.compileUnder_eq
  refine ⟨by rw [read], by rw [read], same, ?_⟩
  intro p plan plan' starts starts'
  obtain ⟨result', ends', alike⟩ :=
    ((p.withStrictness false).compileUnder_ends plan name text).alike starts
      (q := p.withStrictness false) starts' rfl rfl rfl
  have once : ((p.withStrictness true).compileUnder plan name blanked).result.isOk =
      ((p.withStrictness false).compileUnder plan name text).result.isOk := by
    rw [same]
    cases ((p.withStrictness false).compileUnder plan name text).result <;> rfl
  rw [once, alike.isOk_eq, ends'.compileUnder_eq]

-- A point without a number, a sign, and a digit that begins no word become spaces. The tab and the end
-- of the line stay.
example : Source.blanked "" "a.b\t#٣\r\n" = "a b\t  \r\n" := by decide +kernel

end Pipeline

end TaskScript
