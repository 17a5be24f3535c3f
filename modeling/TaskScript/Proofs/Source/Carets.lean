import Mathlib.Data.List.Forall2
import TaskScript.Proofs.Lexer.Fitting
import TaskScript.Proofs.Parsing.Block
import TaskScript.Proofs.Source.Lines
import TaskScript.Proofs.Source.Printing

/-!
# What carets cover

Four parts of the program have to agree on columns before a message points at the right text: the
places of characters, the spans of tokens, the token that the parser blames, and the carets that are
drawn. Here they are brought together for every message that reading a text can give rise to.

* `Diagnostics.block_eq_pointing`: a message about a stretch of one line shows that line, with carets
  under the stretch.
* `Diagnostics.pointsAt_segment`: a message with the span of a segment points at that segment.
* `Diagnostics.pointsAt_dropped`, `Diagnostics.pointsAt_token`: so do the messages about characters
  that are dropped and about tokens.
* `State.Refuses.blamed`: the token that a parse error lies with.
* `Diagnostics.carets_cover_blamed_text`: the message for a dropped character points at that
  character, and the message for a parse error at the lexeme of the token to blame, as long as the
  carets can be set.
* `Diagnostics.lines_of_wide_span`: what is printed where they cannot.
-/

namespace TaskScript

/-! ## The lines of a message -/

namespace Diagnostics

/-- The lines of a message that shows one line of a source and has its carets under some characters
of it, which stand right behind others. Line and carets are seen with tabs expanded. -/
def pointing (name kind : String) (message : Located String) (line : String)
    (before marked : List Char) : List String :=
  let number := Numeral.decimal message.span.start.line
  [kind ++ ": " ++ message.val,
    " --> " ++ message.span.text name,
    spaces number.length ++ " |",
    number ++ " | " ++ line,
    spaces number.length ++ " | "
      ++ String.ofList ((expandTabs 1 before).map fun _ => ' ')
      ++ String.ofList (marked.map fun _ => '^'),
    ""]

/-- What is printed for a message shows the line that the message lies in, and no other line of the
source. The carets cover the marked characters of that line, those that come right behind the
characters of the source passed before, and nothing else of the line as it looks when its tabs are
expanded. The span of the message is as long as what is marked. -/
inductive PointsAt (source : Source) (kind : String) (message : Located String)
    (passed marked : List Char) : List String → Prop
  | intro {above below : List String} {before after expandedAfter : List Char} {line : String}
      (isLine : line = String.ofList (before ++ marked ++ after))
      (lines : source.lines = above ++ line :: below)
      (place : passed = Source.unlines above ++ before)
      (number : message.span.start.line = above.length + 1)
      (stop : message.span.stop =
        ⟨message.span.start.line, message.span.start.column + marked.length⟩)
      (present : source.line? message.span.start.line = some line)
      (expanded : expandTabs 1 (before ++ marked ++ after) =
        expandTabs 1 before ++ marked ++ expandedAfter) :
      PointsAt source kind message passed marked
        (pointing source.name kind message line before marked)

/-- Carets that point at some characters can be set just if there are not too many characters, and
not too many columns before them. -/
theorem PointsAt.settable_iff {source : Source} {kind : String} {message : Located String}
    {passed marked : List Char} {printed : List String}
    (points : PointsAt source kind message passed marked printed) :
    Settable message.span ↔
      message.span.start.column ≤ fieldLimit + 1 ∧ marked.length ≤ fieldLimit := by
  cases points with
  | intro isLine lines place number stop present expanded =>
    unfold Settable
    rw [stop]
    simp only [true_implies, Nat.add_le_add_iff_left]

theorem padLeft_digits (n : Nat) :
    padLeft (Numeral.decimal n).length n = Numeral.decimal n := by
  show spaces (_ - _) ++ _ = _
  rw [Nat.sub_self]
  exact String.empty_append

/-- Above its carets, a message about a place in one line shows that line. -/
theorem excerpt_of_line {source : Source} {message : Located String} {line : String} (kind : String)
    (oneLine : message.span.stop.line = message.span.start.line)
    (present : source.line? message.span.start.line = some line) :
    let number := Numeral.decimal message.span.start.line
    excerpt source kind message =
      [kind ++ ": " ++ message.val, " --> " ++ message.span.text source.name,
        spaces number.length ++ " |", number ++ " | " ++ line] := by
  have one : message.span.start.line + 1 - message.span.start.line = 1 := by omega
  simp only [excerpt, oneLine, one, List.range'_one, List.map_cons, List.map_nil, padLeft_digits,
    present, Option.getD_some, List.cons_append, List.nil_append]

/-- A message about some characters of one line shows that line, with carets under them. -/
theorem block_eq_pointing {source : Source} {message : Located String} {number : Nat}
    {line : String} {before marked : List Char} (kind : String) (nonempty : marked ≠ [])
    (span : message.span = ⟨⟨number, 1 + (expandTabs 1 before).length⟩,
      ⟨number, 1 + (expandTabs 1 before).length + marked.length⟩⟩)
    (present : source.line? number = some line) :
    block source kind message = pointing source.name kind message line before marked := by
  obtain ⟨words, _⟩ := message
  subst span
  have positive : 0 < marked.length := List.length_pos_iff.mpr nonempty
  have low : 1 + (expandTabs 1 before).length - 1 = (expandTabs 1 before).length := by omega
  have high : max (1 + (expandTabs 1 before).length + marked.length - 1)
      (1 + (expandTabs 1 before).length) - (1 + (expandTabs 1 before).length) + 1 =
      marked.length := by omega
  rw [block, excerpt_of_line kind rfl present]
  simp only [caretLine, pointing, underline, if_true, low, high, List.map_const',
    List.cons_append, List.nil_append, String.append_assoc]
  rfl

/-! ## Segments that messages are about -/

/-- A message whose span is that of a segment without tabs and line feeds points at the segment. -/
theorem pointsAt_segment {name text : String} {earlier later : List Segment} {segment : Segment}
    {first : Glyph} {more : List Glyph} (kind words : String)
    (segments : Segment.cut (Source.ofText name text).glyphs = earlier ++ segment :: later)
    (glyphs : segment.glyphs = first :: more)
    (noFeed : '\n' ∉ Segment.chars (first :: more))
    (noTab : '\t' ∉ Segment.chars (first :: more)) :
    let source := Source.ofText name text
    let message : Located String := ⟨words, first.span.through (more.getLastD first).span⟩
    PointsAt source kind message (Segment.chars (earlier.flatMap Segment.glyphs))
      (Segment.chars (first :: more)) (block source kind message) := by
  intro source message
  have clean := Source.feed_notMem_lines name text
  have nonempty : Segment.chars (first :: more) ≠ [] := List.cons_ne_nil _ _
  -- The segment is a stretch of the characters of the source.
  have whole := Source.glyphs_of_cut segments
  rw [glyphs, Source.glyphs_eq_place] at whole
  have split := congrArg Segment.chars whole
  rw [Source.chars_place, Segment.chars_append, Segment.chars_append] at split
  obtain ⟨above, below, before, after, lines, passed⟩ :=
    Source.exists_line clean split nonempty noFeed
  -- It begins behind the lines above and the beginning of its own line.
  have cleanAbove : ∀ line ∈ above, '\n' ∉ line.toList := by
    intro line member
    exact clean line (by rw [lines]; exact List.mem_append_left _ member)
  have cleanBefore : '\n' ∉ before := by
    intro feed
    have inLine := clean (String.ofList (before ++ Segment.chars (first :: more) ++ after))
      (by rw [lines]; exact List.mem_append_right _ List.mem_cons_self)
    rw [String.toList_ofList] at inLine
    exact inLine (by simp [feed])
  have start : Position.past {} (Segment.chars (earlier.flatMap Segment.glyphs)) =
      ⟨above.length + 1, 1 + (expandTabs 1 before).length⟩ := by
    rw [passed, Position.past_append, Source.past_unlines rfl cleanAbove,
      Position.past_line (Nat.le_refl 1) cleanBefore]
    show (⟨1 + above.length, _⟩ : Position) = ⟨above.length + 1, _⟩
    rw [Nat.add_comm]
  have placed := Source.eq_place_of_append whole
  rw [start] at placed
  have span : message.span = _ := Source.span_place placed noFeed noTab
  have number : message.span.start.line = above.length + 1 := by rw [span]
  have stop : message.span.stop = ⟨message.span.start.line,
      message.span.start.column + (Segment.chars (first :: more)).length⟩ := by rw [span]
  have present := Source.line?_of_append lines
  have expanded := expandTabs_append 1 (before ++ Segment.chars (first :: more)) after
  rw [expandTabs_append 1 before, expandTabs_of_notMem noTab] at expanded
  rw [block_eq_pointing kind nonempty span present]
  exact .intro rfl lines passed number stop (number ▸ present) expanded

end Diagnostics

namespace Segment

/-- A lexeme is spelled as its token and has neither tabs nor line feeds. -/
theorem Fits.lexeme_text {first : Glyph} {more following : List Glyph} {token : Token}
    (fits : (lexeme first more token).Fits following) :
    chars (first :: more) = token.text.toList ∧ '\n' ∉ chars (first :: more) ∧
      '\t' ∉ chars (first :: more) := by
  exact ⟨fits.chars_eq_text, fits.blank_notMem (by decide), fits.blank_notMem (by decide)⟩

/-- A token among those of some segments is that of one of them, and the tokens before it are those
of the segments before. -/
theorem exists_lexeme {segments : List Segment} {tokens rest : List (Located Token)}
    {token : Located Token} (read : segments.filterMap token? = tokens ++ token :: rest) :
    ∃ earlier first more later, segments = earlier ++ lexeme first more token.val :: later ∧
      earlier.filterMap token? = tokens ∧
      token.span = first.span.through (more.getLastD first).span := by
  obtain ⟨before, after, rfl, readBefore, readAfter⟩ := List.filterMap_eq_append_iff.mp read
  obtain ⟨silent, segment, later, rfl, quiet, given, -⟩ := List.filterMap_eq_cons_iff.mp readAfter
  cases segment with
  | blank | comment | dropped => cases given
  | lexeme first more t =>
    cases given
    refine ⟨before ++ silent, first, more, later, (List.append_assoc ..).symm, ?_, rfl⟩
    rw [List.filterMap_append, readBefore, List.filterMap_eq_nil_iff.mpr quiet, List.append_nil]

end Segment

namespace Diagnostics

variable {name text : String}

/-- The message about a character that is dropped points at that character. -/
theorem pointsAt_dropped (kind : String) {warning : Located LexWarning}
    (member : warning ∈ (Source.ofText name text).tokenize.warnings) :
    let source := Source.ofText name text
    let message : Located String := ⟨warning.val.message, warning.span⟩
    ∃ earlier glyph later, Segment.cut source.glyphs = earlier ++ .dropped glyph :: later ∧
      warning = ⟨.badChar glyph.val, glyph.span⟩ ∧
      PointsAt source kind message (Segment.chars (earlier.flatMap Segment.glyphs)) [glyph.val]
        (block source kind message) := by
  obtain ⟨earlier, glyph, later, here, rfl⟩ := Source.exists_dropped member
  have fits := Segment.fits_cut (Source.ofText name text).endsLine_glyphs here
  have noFeed : '\n' ∉ Segment.chars [glyph] := fits.dropped_ne (by decide)
  have noTab : '\t' ∉ Segment.chars [glyph] := fits.dropped_ne (by decide)
  exact ⟨earlier, glyph, later, here, rfl, pointsAt_segment kind _ here rfl noFeed noTab⟩

/-- A message about a token points at its lexeme, which stands behind those of the tokens before. -/
theorem pointsAt_token (kind words : String) {tokens rest : List (Located Token)}
    {token : Located Token}
    (read : (Source.ofText name text).tokenize.tokens = tokens ++ token :: rest) :
    let source := Source.ofText name text
    let message : Located String := ⟨words, token.span⟩
    ∃ earlier first more later,
      Segment.cut source.glyphs = earlier ++ .lexeme first more token.val :: later ∧
      earlier.filterMap Segment.token? = tokens ∧
      PointsAt source kind message (Segment.chars (earlier.flatMap Segment.glyphs))
        token.val.text.toList (block source kind message) := by
  rw [Source.tokenize_eq_cut] at read
  obtain ⟨earlier, first, more, later, here, before, span⟩ := Segment.exists_lexeme read
  obtain ⟨spelled, noFeed, noTab⟩ :=
    Segment.Fits.lexeme_text (Segment.fits_cut (Source.ofText name text).endsLine_glyphs here)
  have points := pointsAt_segment kind words here rfl noFeed noTab
  rw [spelled, ← span] at points
  exact ⟨earlier, first, more, later, here, before, points⟩

end Diagnostics

/-! ## Tokens to blame -/

/-- Which token of a construct an error lies with: the keyword, the directive behind it, or the
argument of the directive. -/
def ParseError.blamedPlace : ParseError → Nat
  | outOfTokens .. => 0
  | badMemoryDirective _ => 1
  | badAllocationSize _ | unknownAllocationHandle _ | exhaustedMemory => 2

/-- What an error says of the token that it lies with is so. -/
def ParseError.Names : ParseError → Token → Prop
  | outOfTokens keyword .., token => token = .keyword keyword
  | badMemoryDirective named, token => token = named
  | badAllocationSize text, token | unknownAllocationHandle text, token => token.text = text
  | exhaustedMemory, _ => True

theorem State.Refuses.blamed {s : State} {tokens : List (Located Token)} {e : Located ParseError}
    (refuses : s.Refuses tokens e) (lexemes : ∀ token ∈ tokens, token.val.IsLexeme) :
    ∃ token, tokens[e.val.blamedPlace]? = some token ∧ e.val.Names token.val ∧
      e.span = token.span := by
  cases refuses with
  | short leads wide short =>
    exact ⟨_, rfl, (lexemes _ List.mem_cons_self).eq_keyword leads, rfl⟩
  | memory leads failed rest =>
    obtain ⟨-, fault⟩ := Construct.memory_error failed
    cases fault with
    | badDirective => exact ⟨_, rfl, rfl, rfl⟩
    | badSize => exact ⟨_, rfl, rfl, rfl⟩
    | exhausted => exact ⟨_, rfl, trivial, rfl⟩
    | unknownHandle => exact ⟨_, rfl, rfl, rfl⟩

namespace Diagnostics

/-- For each character that is dropped from a text, in order, the messages show the line in which it
stands, with one caret under it. For a parse error from whatever state, the message shows the line
of the token to blame, with carets under its whole lexeme: the keyword of the construct that cannot
be read if the tokens end too soon, its directive if that is none, and else the argument. So it is
printed as long as the carets stay within the widest field; where a place to blame lies further to
the right, or a lexeme is longer, printing breaks off above its carets. -/
theorem carets_cover_blamed_text (name text kind : String) :
    let source := Source.ofText name text
    let segments := Segment.cut source.glyphs
    let read := source.tokenize
    (read.warnings ≠ [] → ∃ shown : List (List String),
      List.Forall₂ (fun warning block => ∃ earlier glyph later,
        segments = earlier ++ .dropped glyph :: later ∧
        warning = ⟨.badChar glyph.val, glyph.span⟩ ∧
        PointsAt source kind ⟨warning.val.message, warning.span⟩
          (Segment.chars (earlier.flatMap Segment.glyphs)) [glyph.val] block)
        read.warnings shown ∧
      Prints { source, kind, messages := read.warnings.map fun w => ⟨w.val.message, w.span⟩ }
        (fun message => message.span.start.column ≤ fieldLimit + 1) shown) ∧
    ∀ (s : State) (e : Located ParseError), (s.parse read.tokens).error? = some e →
      ∃ (shown : List String) (blocks : List Block) (rest : List (Located Token))
        (parsed : Parsed) (blamed : Located Token) (earlier later : List Segment) (first : Glyph)
        (more : List Glyph),
        read.tokens = blocks.flatMap Block.tokens ++ rest ∧
        s.Reads blocks parsed ∧ parsed.state.Refuses rest e ∧
        rest[e.val.blamedPlace]? = some blamed ∧ e.val.Names blamed.val ∧
        segments = earlier ++ .lexeme first more blamed.val :: later ∧
        earlier.filterMap Segment.token? =
          blocks.flatMap Block.tokens ++ rest.take e.val.blamedPlace ∧
        PointsAt source kind ⟨e.val.message, e.span⟩
          (Segment.chars (earlier.flatMap Segment.glyphs)) blamed.val.text.toList shown ∧
        Prints { source, kind, messages := [⟨e.val.message, e.span⟩] }
          (fun message => message.span.start.column ≤ fieldLimit + 1 ∧
            blamed.val.text.length ≤ fieldLimit) [shown] := by
  intro source segments read
  constructor
  · intro dropped
    let message (w : Located LexWarning) : Located String := ⟨w.val.message, w.span⟩
    refine ⟨(read.warnings.map message).map (block source kind), ?_, ?_⟩
    · rw [List.map_map, List.forall₂_map_right_iff, List.forall₂_same]
      intro warning member
      exact pointsAt_dropped kind member
    · refine prints (by simpa using dropped) ?_
      simp only [List.forall_mem_map]
      intro warning member
      obtain ⟨_, _, _, -, -, points⟩ := pointsAt_dropped kind member
      rw [points.settable_iff]
      exact (and_iff_left (Nat.succ_le_succ (Nat.zero_le _))).symm
  · intro s e failed
    obtain ⟨blocks, rest, parsed, split, reads, refuses⟩ := State.exists_refuses failed
    have lexemes : ∀ token ∈ rest, token.val.IsLexeme := by
      intro token member
      have isRead : token ∈ source.tokenize.tokens := by
        show token ∈ read.tokens
        rw [split]
        exact List.mem_append_right _ member
      exact Source.isLexeme_of_mem_tokenize isRead
    obtain ⟨blamed, found, named, span⟩ := refuses.blamed lexemes
    -- The tokens before the one to blame are those of the blocks and of its own construct.
    obtain ⟨inside, isBlamed⟩ := List.getElem?_eq_some_iff.mp found
    have whole : read.tokens = (blocks.flatMap Block.tokens ++ rest.take e.val.blamedPlace) ++
        blamed :: rest.drop (e.val.blamedPlace + 1) := by
      rw [split, List.append_assoc, ← isBlamed, ← List.drop_eq_getElem_cons inside,
        List.take_append_drop]
    obtain ⟨earlier, first, more, later, here, before, points⟩ :=
      pointsAt_token kind e.val.message whole
    rw [← span] at points
    refine ⟨_, blocks, rest, parsed, blamed, earlier, later, first, more, split, reads, refuses,
      found, named, here, before, points, prints (List.cons_ne_nil _ _) ?_⟩
    rw [List.forall_mem_singleton, points.settable_iff, String.length_toList]

/-- Tabs before and within a directive, a sign that is dropped, and a word in place of a size. -/
def tabbed : String := "sync a\n\tmemory\tallocate #\tlots"

theorem carets_cover_tabbed_text :
    let source := Source.ofText "" tabbed
    let dropped : Located LexWarning := ⟨.badChar '#', ⟨⟨2, 22⟩, ⟨2, 23⟩⟩⟩
    let e : Located ParseError := ⟨.badAllocationSize "lots", ⟨⟨2, 25⟩, ⟨2, 29⟩⟩⟩
    source.tokenize.warnings = [dropped] ∧
      (State.parse {} source.tokenize.tokens).error? = some e ∧
      (∃ passed printed,
        lines { source, kind := "warning", messages := [⟨dropped.val.message, dropped.span⟩] } =
          .ok (printed ++ ["1 warning emitted"]) ∧
        PointsAt source "warning" ⟨dropped.val.message, dropped.span⟩ passed ['#'] printed) ∧
      ∃ passed printed,
        lines { source, messages := [⟨e.val.message, e.span⟩] } =
          .ok (printed ++ ["Compilation failed with 1 error"]) ∧
        PointsAt source "error" ⟨e.val.message, e.span⟩ passed "lots".toList printed := by
  intro source dropped e
  have warnings : source.tokenize.warnings = [dropped] := by decide +kernel
  have failed : (State.parse {} source.tokenize.tokens).error? = some e := by decide +kernel
  refine ⟨warnings, failed, ?_, ?_⟩
  · obtain ⟨warned, -⟩ := carets_cover_blamed_text "" tabbed "warning"
    obtain ⟨shown, points, printed⟩ := warned (by rw [warnings]; exact List.cons_ne_nil _ _)
    rw [warnings] at points printed
    cases points with
    | cons first rest =>
      cases rest
      obtain ⟨earlier, glyph, later, -, same, points⟩ := first
      have sign : '#' = glyph.val := (LexWarning.badChar.inj (congrArg Located.val same))
      rw [← sign] at points
      have counted : footer "warning" 1 = "1 warning emitted" := by decide +kernel
      have whole := printed.lines_of_fits (by simp [dropped, fieldLimit])
      rw [List.flatten_cons, List.flatten_nil, List.append_nil] at whole
      exact ⟨_, _, counted ▸ whole, points⟩
  · obtain ⟨-, refused⟩ := carets_cover_blamed_text "" tabbed "error"
    obtain ⟨shown, _, _, _, blamed, _, _, _, _, -, -, -, -, named, -, -, points, printed⟩ :=
      refused {} e failed
    have spelled : blamed.val.text = "lots" := named
    rw [spelled] at points printed
    have counted : footer "error" 1 = "Compilation failed with 1 error" := by decide +kernel
    have whole := printed.lines_of_fits (by simp [e, fieldLimit]; decide)
    rw [List.flatten_cons, List.flatten_nil, List.append_nil] at whole
    exact ⟨_, shown, counted ▸ whole, points⟩

/-! ## Carets that cannot be set -/

/-- A sign behind some blanks. -/
def signBehind (width : Nat) : String := String.ofList (List.replicate width ' ' ++ ['#'])

theorem lines_signBehind (name : String) (width : Nat) :
    (Source.ofText name (signBehind width)).lines = [signBehind width] :=
  Source.lines_of_notMem name (by simp) (by simp)

theorem glyphs_signBehind (name : String) (width : Nat) :
    (Source.ofText name (signBehind width)).glyphs =
      Source.place {} (List.replicate width ' ') ++
        [⟨'#', Span.single ⟨1, 1 + width⟩⟩, ⟨'\n', Span.single ⟨1, 2 + width⟩⟩] := by
  have past : Position.past {} (List.replicate width ' ') = ⟨1, 1 + width⟩ := by
    rw [Position.past_line (Nat.le_refl 1) (by simp), expandTabs_of_notMem (by simp),
      List.length_replicate]
  have behind : Position.after ⟨1, 1 + width⟩ '#' = ⟨1, 2 + width⟩ := by
    show (⟨1, 1 + width + 1⟩ : Position) = _
    rw [Nat.add_right_comm]
  rw [Source.glyphs_eq_place, lines_signBehind, Source.unlines_cons, signBehind,
    String.toList_ofList, List.append_assoc, Source.place_append, past]
  show _ ++ [_, (⟨'\n', Span.single (Position.after ⟨1, 1 + width⟩ '#')⟩ : Glyph)] = _
  rw [behind]

theorem cut_signBehind (name : String) (width : Nat) :
    Segment.cut (Source.ofText name (signBehind width)).glyphs =
      (Source.place {} (List.replicate width ' ')).map .blank ++
        [.dropped ⟨'#', Span.single ⟨1, 1 + width⟩⟩, .blank ⟨'\n', Span.single ⟨1, 2 + width⟩⟩] := by
  have blank : ∀ glyph ∈ Source.place {} (List.replicate width ' '), isBlank glyph.val = true := by
    intro glyph member
    have inText : glyph.val ∈ Segment.chars (Source.place {} (List.replicate width ' ')) :=
      List.mem_map_of_mem member
    rw [Source.chars_place] at inText
    rw [List.eq_of_mem_replicate inText]
    decide
  have dropped (span : Span) (following : List Glyph) :
      (Segment.dropped ⟨'#', span⟩).Fits following := by
    refine Segment.fits_dropped ?_ ?_ ?_ ?_ ?_ ?_ _
    all_goals
      dsimp only
      decide
  have feed (span : Span) : isBlank (⟨'\n', span⟩ : Glyph).val = true := by
    dsimp only
    decide
  rw [glyphs_signBehind, Segment.cut_of_blanks blank, Segment.cut,
    Segment.first_of_dropped (dropped _ _), Segment.cut, Segment.first_of_blank _ (feed _),
    Segment.cut]

/-- The sign is dropped, and told where it stands. -/
theorem tokenize_signBehind (name : String) (width : Nat) :
    (Source.ofText name (signBehind width)).tokenize =
      ⟨[], [⟨.badChar '#', Span.single ⟨1, 1 + width⟩⟩]⟩ := by
  rw [Source.tokenize_eq_cut, cut_signBehind, List.filterMap_append, List.filterMap_append,
    List.filterMap_map, List.filterMap_map]
  have noTokens (blanks : List Glyph) : blanks.filterMap (Segment.token? ∘ .blank) = [] :=
    List.filterMap_eq_nil_iff.mpr fun _ _ => rfl
  have noWarnings (blanks : List Glyph) : blanks.filterMap (Segment.warning? ∘ .blank) = [] :=
    List.filterMap_eq_nil_iff.mpr fun _ _ => rfl
  rw [noTokens, noWarnings]
  rfl

/-- Where the carets of a message cannot be set, the line that they belong under is the last that is
printed. -/
theorem lines_of_wide_span (name kind words : String) (width : Nat) {span : Span}
    (start : span.start.line = 1) (stop : span.stop.line = 1) (wide : ¬ Settable span) :
    lines { source := .ofText name (signBehind width), kind, messages := [⟨words, span⟩] } =
      .error [kind ++ ": " ++ words, " --> " ++ span.text name, "  |",
        "1 | " ++ signBehind width] := by
  have present : (Source.ofText name (signBehind width)).line? span.start.line =
      some (signBehind width) := by
    rw [start, Source.line?, lines_signBehind]
    rfl
  have gutter : spaces (Numeral.decimal 1).length ++ " |" = "  |" := by decide +kernel
  have number : Numeral.decimal 1 ++ " | " = "1 | " := by decide +kernel
  have shown : excerpt (.ofText name (signBehind width)) kind ⟨words, span⟩ = _ :=
    excerpt_of_line kind (stop.trans start.symm) present
  rw [lines_of_messages (List.cons_ne_nil _ _)]
  simp only [blocks, caretLine?_of_wide wide, Except.map, shown, start, gutter, number]
  rfl

/-- A sign too far to the right is told of without a caret. -/
theorem far_sign_has_no_caret :
    let source := Source.ofText "<input>" (signBehind 65536)
    let dropped : Located LexWarning := ⟨.badChar '#', Span.single ⟨1, 65537⟩⟩
    source.tokenize.warnings = [dropped] ∧
      lines { source, kind := "warning", messages := [⟨dropped.val.message, dropped.span⟩] } =
        .error ["warning: Bad character '#' in input stream, dropped", " --> <input>:1:65537",
          "  |", "1 | " ++ signBehind 65536] := by
  intro source dropped
  have warned := congrArg Tokens.warnings (tokenize_signBehind "<input>" 65536)
  have wide : ¬ Settable dropped.span := fun settable => absurd settable.1 (by decide)
  have printed := lines_of_wide_span "<input>" "warning" dropped.val.message 65536 rfl rfl wide
  have words : "warning" ++ ": " ++ dropped.val.message =
      "warning: Bad character '#' in input stream, dropped" := by decide +kernel
  have place : " --> " ++ dropped.span.text "<input>" = " --> <input>:1:65537" := by
    decide +kernel
  rw [words, place] at printed
  exact ⟨warned, printed⟩

end Diagnostics

end TaskScript
