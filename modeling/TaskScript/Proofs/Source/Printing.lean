import TaskScript.Diagnostic

/-!
# How messages are printed

Messages are printed one after another, each of them in full as long as its carets can be set. At the
first whose carets are too wide a field, printing breaks off: the messages before it stand there, and
what belongs above the carets of that one.

* `Diagnostics.Settable`: the spans whose carets can be set.
* `Diagnostics.Prints`: the two ways in which printing goes.
* `Diagnostics.prints`: it goes in one of them, and the spans of the messages tell in which.
-/

namespace TaskScript.Diagnostics

/-! ## Carets -/

/-- The carets of a span can be set. They do not begin too far to the right and, for a span in one
line, are not too many. -/
def Settable (span : Span) : Prop :=
  span.start.column ≤ fieldLimit + 1 ∧
    (span.stop.line = span.start.line → span.stop.column ≤ span.start.column + fieldLimit)

/-- The line with the carets, where it can be set. -/
def caretLine (span : Span) : String :=
  spaces (Numeral.decimal span.stop.line).length ++ " | " ++ spaces ((underline span).1 - 1)
    ++ String.ofList (List.replicate ((underline span).2 - (underline span).1 + 1) '^')

theorem settable_iff (span : Span) :
    Settable span ↔ (underline span).1 - 1 ≤ fieldLimit ∧
      (underline span).2 - (underline span).1 + 1 ≤ fieldLimit := by
  unfold Settable underline fieldLimit
  by_cases sameLine : span.stop.line = span.start.line
  · rw [if_pos sameLine]
    simp only [sameLine, true_implies]
    omega
  · rw [if_neg sameLine]
    simp only [sameLine, false_implies, and_true]
    omega

theorem caretLine?_of_settable {span : Span} (settable : Settable span) :
    caretLine? span = some (caretLine span) :=
  if_pos ((settable_iff span).mp settable)

theorem caretLine?_of_wide {span : Span} (wide : ¬ Settable span) : caretLine? span = none :=
  if_neg (mt (settable_iff span).mpr wide)

/-! ## Messages -/

/-- The lines of a message in full. -/
def block (source : Source) (kind : String) (message : Located String) : List String :=
  excerpt source kind message ++ [caretLine message.span, ""]

/-- Messages are printed in full, or up to the carets of the first that cannot be set. -/
theorem blocks_cases (source : Source) (kind : String) (messages : List (Located String)) :
    (∀ message ∈ messages, Settable message.span) ∧
        blocks source kind messages = .ok (messages.flatMap (block source kind)) ∨
      ∃ before message after, messages = before ++ message :: after ∧
        (∀ earlier ∈ before, Settable earlier.span) ∧ ¬ Settable message.span ∧
        blocks source kind messages =
          .error (before.flatMap (block source kind) ++ excerpt source kind message) := by
  induction messages with
  | nil => exact .inl ⟨List.forall_mem_nil _, rfl⟩
  | cons first messages ih =>
    by_cases settable : Settable first.span
    · have carets := caretLine?_of_settable settable
      rcases ih with ⟨all, printed⟩ | ⟨before, message, after, rfl, all, wide, printed⟩
      · refine .inl ⟨List.forall_mem_cons.mpr ⟨settable, all⟩, ?_⟩
        simp only [blocks, carets, printed, List.flatMap_cons, block]
      · refine .inr ⟨first :: before, message, after, rfl,
          List.forall_mem_cons.mpr ⟨settable, all⟩, wide, ?_⟩
        simp only [blocks, carets, printed, List.flatMap_cons, block, List.append_assoc]
    · refine .inr ⟨[], first, messages, rfl, List.forall_mem_nil _, settable, ?_⟩
      simp only [blocks, caretLine?_of_wide settable, List.flatMap_nil, List.nil_append]

/-- How printing goes, given whose carets fit and the lines of each message in full. All of them are
printed, and a line that counts the messages; or those of the messages before the first that does
not fit, and what stands above the carets of that one. -/
inductive Prints (d : Diagnostics) (fits : Located String → Prop)
    (shown : List (List String)) : Prop
  | whole (all : ∀ message ∈ d.messages, fits message)
      (lines : d.lines = .ok (shown.flatten ++ [footer d.kind d.messages.length]))
  | brokenOff {before after : List (Located String)} {message : Located String}
      {earlier later : List (List String)} {above : List String} {carets : String}
      (messages : d.messages = before ++ message :: after)
      (all : ∀ message ∈ before, fits message)
      (wide : ¬ fits message)
      (blocks : shown = earlier ++ (above ++ [carets, ""]) :: later)
      (place : earlier.length = before.length)
      (lines : d.lines = .error (earlier.flatten ++ above))

variable {d : Diagnostics}

theorem Prints.lines_of_fits {fits : Located String → Prop} {shown : List (List String)}
    (printing : d.Prints fits shown) (all : ∀ message ∈ d.messages, fits message) :
    d.lines = .ok (shown.flatten ++ [footer d.kind d.messages.length]) := by
  cases printing with
  | whole _ lines => exact lines
  | @brokenOff _ _ message _ _ _ _ messages _ wide =>
    exact absurd (all message (by simp [messages])) wide

theorem lines_of_messages (some : d.messages ≠ []) :
    d.lines = (blocks d.source d.kind d.messages).map
      (· ++ [footer d.kind d.messages.length]) := by
  unfold lines
  rw [List.isEmpty_eq_false_iff.mpr some]
  cases blocks d.source d.kind d.messages with
  | error printed => rfl
  | ok printed => rfl

theorem prints (some : d.messages ≠ []) {fits : Located String → Prop}
    (fits_iff : ∀ message ∈ d.messages, fits message ↔ Settable message.span) :
    d.Prints fits (d.messages.map (block d.source d.kind)) := by
  have lines := lines_of_messages some
  rcases blocks_cases d.source d.kind d.messages with
    ⟨all, printed⟩ | ⟨before, message, after, messages, all, wide, printed⟩
  · rw [printed, List.flatMap_def] at lines
    exact .whole (fun message member => (fits_iff message member).mpr (all message member)) lines
  · rw [printed, List.flatMap_def] at lines
    have inside : ∀ other ∈ before ++ [message], fits other ↔ Settable other.span := by
      intro other member
      refine fits_iff other ?_
      rw [messages, List.append_cons]
      exact List.mem_append_left _ member
    have shown : d.messages.map (block d.source d.kind) =
        before.map (block d.source d.kind) ++
          (excerpt d.source d.kind message ++ [caretLine message.span, ""]) ::
            after.map (block d.source d.kind) := by
      rw [messages, List.map_append, List.map_cons]
      rfl
    exact .brokenOff messages
      (fun other member => (inside other (List.mem_append_left _ member)).mpr (all other member))
      (mt (inside message (by simp)).mp wide) shown (List.length_map _) lines

/-- All that messages say is printed just if all of their carets can be set. -/
theorem text_isOk_iff (d : Diagnostics) :
    (∃ printed, d.text = .ok printed) ↔ ∀ message ∈ d.messages, Settable message.span := by
  by_cases some : d.messages = []
  · simp [text, lines, some]
  · have printing := prints some fun _ _ => Iff.rfl
    cases printing with
    | whole all lines =>
      simp only [text, lines]
      exact iff_of_true ⟨_, rfl⟩ all
    | @brokenOff before after message _ _ _ _ messages all wide blocks place lines =>
      have member : message ∈ d.messages := by simp [messages]
      have notAll : ¬ ∀ message ∈ d.messages, Settable message.span :=
        fun all => wide (all message member)
      simp [text, lines, notAll]

end TaskScript.Diagnostics
