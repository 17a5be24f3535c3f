import TaskScript.Proofs.Lexer.Fitting
import TaskScript.Proofs.Source.Columns

/-!
# Where tokens and warnings lie

The characters of a source stand one behind the other, and what is read of them is a number of
stretches that do not overlap. So the spans of tokens and warnings, put in the order in which they
start, lie apart. A lexeme has neither tabs nor line feeds, and its span is therefore as wide as its
text is long, however far tabs have moved it.

* `Source.pairwise_glyphs`: a character ends where or before the next one starts.
* `Source.span_of_lexeme`, `Source.span_of_dropped`: the spans of what is read.
* `Segment.pairwise_spans`: the spans of segments lie apart.
* `Source.tokenize_locates`: where tokens and warnings lie, and how their spans are written.
-/

namespace TaskScript

/-! ## The order of places -/

namespace Position

/-- Lines from top to bottom, and in a line columns from left to right. -/
instance instLE : LE Position :=
  ⟨fun p q => p.line < q.line ∨ p.line = q.line ∧ p.column ≤ q.column⟩

instance instLT : LT Position :=
  ⟨fun p q => p.line < q.line ∨ p.line = q.line ∧ p.column < q.column⟩

variable {p q r : Position}

theorem le_def : p ≤ q ↔ p.line < q.line ∨ p.line = q.line ∧ p.column ≤ q.column := Iff.rfl

theorem lt_def : p < q ↔ p.line < q.line ∨ p.line = q.line ∧ p.column < q.column := Iff.rfl

instance instDecidableLE (p q : Position) : Decidable (p ≤ q) :=
  inferInstanceAs (Decidable (p.line < q.line ∨ p.line = q.line ∧ p.column ≤ q.column))

protected theorem le_refl (p : Position) : p ≤ p := .inr ⟨rfl, Nat.le_refl _⟩

protected theorem le_trans (first : p ≤ q) (second : q ≤ r) : p ≤ r := by
  rw [le_def] at first second ⊢
  omega

protected theorem le_total (p q : Position) : p ≤ q ∨ q ≤ p := by
  rw [le_def, le_def]
  omega

protected theorem lt_of_lt_of_le (first : p < q) (second : q ≤ r) : p < r := by
  rw [lt_def] at first ⊢
  rw [le_def] at second
  omega

protected theorem le_of_lt (before : p < q) : p ≤ q := by
  rw [lt_def] at before
  rw [le_def]
  omega

protected theorem not_le_of_lt (before : p < q) : ¬ q ≤ p := by
  rw [lt_def] at before
  rw [le_def]
  omega

/-- Whatever the character, the next one stands at least one column behind it. -/
theorem advance_le_after (p : Position) (c : Char) : p.advance ≤ p.after c := by
  unfold after
  split
  · exact .inl (Nat.lt_succ_self p.line)
  split
  · refine .inr ⟨rfl, ?_⟩
    show p.column + 1 ≤ 1 + ((p.column - 1) / 4 + 1) * 4
    omega
  · exact Position.le_refl _

theorem lt_advance (p : Position) : p < p.advance := .inr ⟨rfl, Nat.lt_succ_self _⟩

end Position

/-- A span that is some columns wide is written as one place if it is a single column, and with its
first and its last column otherwise. -/
theorem Span.text_of_width (name : String) (p : Position) (width : Nat) :
    (width = 1 → text name ⟨p, ⟨p.line, p.column + width⟩⟩ = name ++ ":" ++ p.text) ∧
      (1 < width → text name ⟨p, ⟨p.line, p.column + width⟩⟩ =
        name ++ ":[" ++ p.text ++ "-" ++ Position.text ⟨p.line, p.column + width - 1⟩ ++ "]") := by
  constructor
  · rintro rfl
    exact if_pos (.inl rfl)
  · intro wide
    have several : ¬ ((⟨p.line, p.column + width⟩ : Position) = p.advance ∨ p.line ≠ p.line) := by
      rintro (single | otherLine)
      · have columns : p.column + width = p.column + 1 := congrArg Position.column single
        omega
      · exact otherLine rfl
    have last : max (p.column + width - 1) 1 = p.column + width - 1 := by omega
    unfold text
    rw [if_neg several]
    show _ ++ Position.text ⟨p.line, max (p.column + width - 1) 1⟩ ++ _ = _
    rw [last]

/-! ## Characters of a source -/

namespace Source

variable {p : Position} {text : List Char} {glyph : Glyph}

theorem le_start_of_mem_place (member : glyph ∈ place p text) : p ≤ glyph.span.start := by
  induction text generalizing p with
  | nil => cases member
  | cons c text ih =>
    rcases List.mem_cons.mp member with rfl | later
    · exact Position.le_refl p
    · have step := Position.le_of_lt
        (Position.lt_of_lt_of_le (Position.lt_advance p) (Position.advance_le_after p c))
      exact Position.le_trans step (ih later)

/-- A character ends where or before the next one starts. -/
theorem pairwise_place (p : Position) (text : List Char) :
    (place p text).Pairwise fun a b => a.span.stop ≤ b.span.start := by
  induction text generalizing p with
  | nil => exact .nil
  | cons c text ih =>
    refine .cons ?_ (ih (p.after c))
    intro glyph later
    exact Position.le_trans (Position.advance_le_after p c) (le_start_of_mem_place later)

theorem pairwise_glyphs (source : Source) :
    source.glyphs.Pairwise fun a b => a.span.stop ≤ b.span.start := pairwise_place _ _

/-- Each character is one column wide. -/
theorem span_of_mem_place (member : glyph ∈ place p text) :
    glyph.span = Span.single glyph.span.start := by
  induction text generalizing p with
  | nil => cases member
  | cons c text ih =>
    rcases List.mem_cons.mp member with rfl | later
    · rfl
    · exact ih later

variable {source : Source} {earlier later : List Segment}

/-- The span of a lexeme stays in one line and is as wide as the text of its token is long. -/
theorem span_of_lexeme {first : Glyph} {more : List Glyph} {token : Token}
    (here : Segment.cut source.glyphs = earlier ++ .lexeme first more token :: later) :
    first.span.through (more.getLastD first).span =
      ⟨first.span.start,
        ⟨first.span.start.line, first.span.start.column + token.text.length⟩⟩ := by
  have fits := Segment.fits_cut source.endsLine_glyphs here
  have placed := eq_place_of_append (glyphs_of_cut here)
  have start := congrArg (·.span.start) (List.cons.inj placed).1
  have span := span_place placed (fits.blank_notMem (by decide)) (fits.blank_notMem (by decide))
  rw [span, start, fits.chars_eq_text, String.length_toList]
  rfl

/-- The span of a dropped character is one column wide. -/
theorem span_of_dropped (here : Segment.cut source.glyphs = earlier ++ .dropped glyph :: later) :
    glyph.span = Span.single glyph.span.start := by
  have member : glyph ∈ place {} (unlines source.lines) := by
    rw [← glyphs_eq_place, glyphs_of_cut here]
    simp [Segment.glyphs]
  exact span_of_mem_place member

end Source

/-! ## Spans of segments -/

namespace Segment

/-- The span of what the segment is read as, if it is read as something. -/
def span? : Segment → Option Span
  | lexeme first more _ => some (first.span.through (more.getLastD first).span)
  | dropped glyph => some glyph.span
  | blank _ | comment _ _ => none

/-- A segment spans from one of its characters to another. -/
theorem exists_of_span? {segment : Segment} {span : Span} (spans : segment.span? = some span) :
    ∃ first ∈ segment.glyphs, ∃ last ∈ segment.glyphs, span = first.span.through last.span := by
  cases segment with
  | blank | comment => cases spans
  | lexeme first more token =>
    cases spans
    exact ⟨first, List.mem_cons_self, more.getLastD first, List.getLastD_mem_cons, rfl⟩
  | dropped glyph =>
    cases spans
    exact ⟨glyph, List.mem_cons_self, glyph, List.mem_cons_self, rfl⟩

/-- The spans of tokens and warnings are those of the segments. -/
theorem perm_spans (segments : List Segment) :
    ((segments.filterMap token?).map (·.span) ++ (segments.filterMap warning?).map (·.span)).Perm
      (segments.filterMap span?) := by
  induction segments with
  | nil => exact .nil
  | cons segment segments ih =>
    cases segment with
    | blank | comment => exact ih
    | lexeme first more token => exact ih.cons _
    | dropped glyph => exact List.perm_middle.trans (ih.cons _)

/-- The spans of segments lie apart if their characters do. -/
theorem pairwise_spans {segments : List Segment}
    (apart : (segments.flatMap glyphs).Pairwise fun a b => a.span.stop ≤ b.span.start) :
    (segments.filterMap span?).Pairwise fun a b => a.stop ≤ b.start := by
  rw [List.pairwise_filterMap]
  refine (List.pairwise_flatMap.mp apart).2.imp ?_
  intro segment other between span isSpan otherSpan isOther
  obtain ⟨-, -, last, isLast, rfl⟩ := exists_of_span? isSpan
  obtain ⟨first, isFirst, -, -, rfl⟩ := exists_of_span? isOther
  exact between last isLast first isFirst

end Segment

namespace Source

theorem start_lt_stop_of_span? {source : Source} {span : Span}
    (member : span ∈ (Segment.cut source.glyphs).filterMap Segment.span?) :
    span.start < span.stop := by
  obtain ⟨segment, isSegment, isSpan⟩ := List.mem_filterMap.mp member
  obtain ⟨earlier, later, here⟩ := List.append_of_mem isSegment
  cases segment with
  | blank | comment => cases isSpan
  | lexeme first more token =>
    cases isSpan
    have fits := Segment.fits_cut source.endsLine_glyphs here
    have filled : 0 < token.text.length := by
      rw [← String.length_toList]
      exact List.length_pos_iff.mpr fits.isLexeme.text_ne_nil
    rw [span_of_lexeme here]
    exact .inr ⟨rfl, Nat.lt_add_of_pos_right filled⟩
  | dropped glyph =>
    cases isSpan
    rw [span_of_dropped here]
    exact Position.lt_advance _

/-- Of spans that start one behind the other, no two start together. -/
theorem eq_of_start_le {spans : List Span} (ordered : spans.Pairwise fun a b => a.start < b.start)
    {a b : Span} (isSpan : a ∈ spans) (isOther : b ∈ spans) (notBehind : a.start ≤ b.start)
    (notBefore : b.start ≤ a.start) : a = b := by
  induction ordered with
  | nil => cases isSpan
  | cons first _ ih =>
    rcases List.mem_cons.mp isSpan with rfl | later
    · rcases List.mem_cons.mp isOther with rfl | otherLater
      · rfl
      · exact absurd notBefore (Position.not_le_of_lt (first b otherLater))
    · rcases List.mem_cons.mp isOther with rfl | otherLater
      · exact absurd notBehind (Position.not_le_of_lt (first a later))
      · exact ih later otherLater

/-- Put in the order in which they start, the spans of tokens and warnings start one behind the
other and lie apart. -/
theorem pairwise_mergeSort_spans (source : Source) :
    let read := source.tokenize
    let spans := read.tokens.map (·.span) ++ read.warnings.map (·.span)
    (spans.mergeSort fun a b => a.start ≤ b.start).Pairwise fun a b =>
      a.start < b.start ∧ a.stop ≤ b.start := by
  intro read spans
  let inOrder := (Segment.cut source.glyphs).filterMap Segment.span?
  have ordered : inOrder.Pairwise fun a b => a.start < b.start ∧ a.stop ≤ b.start := by
    have glyphs := source.pairwise_glyphs
    rw [← Segment.glyphs_cut source.glyphs] at glyphs
    refine (Segment.pairwise_spans glyphs).imp_of_mem ?_
    intro a b isSpan _ before
    exact ⟨Position.lt_of_lt_of_le (start_lt_stop_of_span? isSpan) before, before⟩
  have starts := ordered.imp And.left
  have sorted : (spans.mergeSort fun a b => a.start ≤ b.start).Pairwise fun a b =>
      decide (a.start ≤ b.start) = true := by
    refine List.pairwise_mergeSort ?_ ?_ spans
    · intro a b c first second
      rw [decide_eq_true_iff] at first second ⊢
      exact Position.le_trans first second
    · intro a b
      rw [Bool.or_eq_true, decide_eq_true_iff, decide_eq_true_iff]
      exact Position.le_total a.start b.start
  have perm : (spans.mergeSort fun a b => a.start ≤ b.start).Perm inOrder := by
    have isRead : read = _ := source.tokenize_eq_cut
    refine (List.mergeSort_perm _ _).trans ?_
    show (read.tokens.map (·.span) ++ read.warnings.map (·.span)).Perm inOrder
    rw [isRead]
    exact Segment.perm_spans _
  -- A sorted list is the only sorted list of its spans, if no two of them start together.
  have same : (spans.mergeSort fun a b => a.start ≤ b.start) = inOrder := by
    refine List.Perm.eq_of_pairwise ?_ sorted ?_ perm
    · intro a b isSpan isOther notBehind notBefore
      exact eq_of_start_le starts (perm.mem_iff.mp isSpan) isOther (of_decide_eq_true notBehind)
        (of_decide_eq_true notBefore)
    · exact starts.imp fun before => decide_eq_true (Position.le_of_lt before)
  rw [same]
  exact ordered

/-- A token reaches from the start of its first character to the stop of its last one. It lies in one
line and is as many columns wide as its text has characters, whatever stands before it in the line,
and its span is written accordingly. A warning is one column wide. All spans together, in the order
in which they start, start one behind the other and lie apart. -/
theorem tokenize_locates (name text : String) :
    let source := ofText name text
    let read := source.tokenize
    let spans := read.tokens.map (·.span) ++ read.warnings.map (·.span)
    (∀ token ∈ read.tokens, ∃ passed first more rest,
      source.glyphs = passed ++ (first :: more ++ rest) ∧
      Segment.textOf (first :: more) = token.val.text ∧
      token.span.start = first.span.start ∧
      token.span.stop = (more.getLastD first).span.stop ∧
      token.span.stop.line = token.span.start.line ∧
      token.span.stop.column = token.span.start.column + token.val.text.length ∧
      (token.val.text.length = 1 → token.span.text name = name ++ ":" ++ token.span.start.text) ∧
      (1 < token.val.text.length → token.span.text name =
        name ++ ":[" ++ token.span.start.text ++ "-" ++ Position.text ⟨token.span.start.line,
          token.span.start.column + token.val.text.length - 1⟩ ++ "]")) ∧
    (∀ warning ∈ read.warnings, ∃ passed glyph rest,
      source.glyphs = passed ++ glyph :: rest ∧
      warning = ⟨.badChar glyph.val, glyph.span⟩ ∧
      warning.span.stop.line = warning.span.start.line ∧
      warning.span.stop.column = warning.span.start.column + 1) ∧
    (spans.mergeSort fun a b => a.start ≤ b.start).Pairwise fun a b =>
      a.start < b.start ∧ a.stop ≤ b.start := by
  intro source read spans
  refine ⟨?_, ?_, source.pairwise_mergeSort_spans⟩
  · intro token member
    obtain ⟨earlier, first, more, later, here, span⟩ := exists_lexeme member
    have fits := Segment.fits_cut source.endsLine_glyphs here
    obtain ⟨single, wide⟩ := Span.text_of_width name first.span.start token.val.text.length
    have isSpan := span.trans (span_of_lexeme here)
    have start : token.span.start = first.span.start := by rw [isSpan]
    rw [← isSpan, ← start] at single wide
    refine ⟨_, first, more, _, glyphs_of_cut here, fits.1.symm, start, ?_, ?_, ?_, single, wide⟩
    · rw [span]
      rfl
    · rw [isSpan]
    · rw [isSpan]
  · intro warning member
    obtain ⟨earlier, glyph, later, here, rfl⟩ := exists_dropped member
    have isSpan := span_of_dropped here
    refine ⟨_, glyph, _, glyphs_of_cut here, rfl, ?_, ?_⟩
    · rw [isSpan]
      rfl
    · rw [isSpan]
      rfl

/-- Tabs before and between tokens, a number with a fraction, a comment, and signs that are
dropped. -/
def scattered : String := "\tfn\t1.5.\t;// $\n$ x"

theorem scattered_located :
    let read := (ofText "f" scattered).tokenize
    let number : Located Token := ⟨.number "1.5", ⟨⟨1, 9⟩, ⟨1, 12⟩⟩⟩
    let sign : Located Token := ⟨.punctuation ';', ⟨⟨1, 17⟩, ⟨1, 18⟩⟩⟩
    let dropped : Located LexWarning := ⟨.badChar '$', ⟨⟨2, 1⟩, ⟨2, 2⟩⟩⟩
    let spans := read.tokens.map (·.span) ++ read.warnings.map (·.span)
    number ∈ read.tokens ∧ number.span.text "f" = "f:[1:9-1:11]" ∧
      sign ∈ read.tokens ∧ sign.span.text "f" = "f:1:17" ∧
      dropped ∈ read.warnings ∧ dropped.span.stop.column = dropped.span.start.column + 1 ∧
      spans.length = 6 ∧
      (spans.mergeSort fun a b => a.start ≤ b.start).Pairwise fun a b =>
        a.start < b.start ∧ a.stop ≤ b.start := by
  intro read number sign dropped spans
  obtain ⟨tokens, warnings, ordered⟩ := tokenize_locates "f" scattered
  have numberRead : number ∈ read.tokens := by decide +kernel
  have signRead : sign ∈ read.tokens := by decide +kernel
  have warned : dropped ∈ read.warnings := by decide +kernel
  obtain ⟨_, _, _, _, -, -, -, -, -, -, -, wide⟩ := tokens number numberRead
  obtain ⟨_, _, _, _, -, -, -, -, -, -, single, -⟩ := tokens sign signRead
  obtain ⟨_, _, _, -, -, -, column⟩ := warnings dropped warned
  exact ⟨numberRead, (wide (by decide)).trans (by decide +kernel), signRead,
    (single (by decide)).trans (by decide +kernel), warned, column, by decide +kernel, ordered⟩

end Source

end TaskScript
