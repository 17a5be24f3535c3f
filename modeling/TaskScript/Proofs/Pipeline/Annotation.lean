import TaskScript.Proofs.Pipeline.Marking

/-!
# The default pass, place by place

The default pass searches backwards for the last request and goes over what stands before it. What
it does at a place is said here without the search and for every program, whatever notes its
statements carry: a statement is due for the note if the last request comes later, it belongs to a
category and the note is not there yet. What is due gets the note behind its other notes, and
nothing else changes, so a second run finds nothing to do.

* `Program.lastRequest?_eq_some_iff`: the search finds the last request.
* `Pass.annotateBefore_eq_mapIdx`: the pass as a change of each statement at its place.
* `Pass.annotateBefore_annotateBefore`: a second run changes nothing.
* `Pass.annotate_notes_due_statements`: what the pass keeps, and which statements get the note.
-/

namespace TaskScript

namespace Program

/-! ## The last request -/

/-- A request for optimization stands at this place, and none comes later. -/
def IsLastRequest (program : Program) (place : Nat) : Prop :=
  program[place]?.map (·.statement) = some .optimize ∧
    ∀ node ∈ program.drop (place + 1), node.statement ≠ .optimize

instance decidableIsLastRequest (program : Program) (place : Nat) :
    Decidable (program.IsLastRequest place) :=
  inferInstanceAs (Decidable (_ ∧ _))

/-- The statement at this place is due for the note: it stands before the last request, belongs to a
category and does not have the note. -/
def IsDue (program : Program) (place : Nat) (node : Node) : Prop :=
  (∃ last < program.length, program.IsLastRequest last ∧ place < last) ∧
    node.category? ≠ none ∧ "Optimized" ∉ node.notes

instance decidableIsDue (program : Program) (place : Nat) (node : Node) :
    Decidable (program.IsDue place node) :=
  inferInstanceAs (Decidable (_ ∧ _))

theorem lastRequest?_eq_none_iff {program : Program} :
    program.lastRequest? = none ↔ ∀ node ∈ program, node.statement ≠ .optimize := by
  rw [← Option.isNone_iff_eq_none, ← Option.not_isSome, isSome_lastRequest?]
  simp [hasRequest]

theorem isLastRequest_zero {node : Node} {later : Program} :
    IsLastRequest (node :: later) 0 ↔
      node.statement = .optimize ∧ ∀ other ∈ later, other.statement ≠ .optimize := by
  simp [IsLastRequest]

theorem isLastRequest_succ {node : Node} {later : Program} {place : Nat} :
    IsLastRequest (node :: later) (place + 1) ↔ IsLastRequest later place := by
  simp [IsLastRequest]

/-- The search from the back finds the last request. -/
theorem lastRequest?_eq_some_iff {program : Program} {place : Nat} :
    program.lastRequest? = some place ↔ program.IsLastRequest place := by
  induction program generalizing place with
  | nil => simp [lastRequest?, IsLastRequest]
  | cons node later ih =>
    rw [lastRequest?_cons]
    cases place with
    | zero =>
      rw [isLastRequest_zero, ← lastRequest?_eq_none_iff]
      cases found : lastRequest? later with
      | none => by_cases request : node.statement = .optimize <;> simp [request]
      | some last => simp
    | succ place =>
      rw [isLastRequest_succ, ← ih]
      cases found : lastRequest? later with
      | none => by_cases request : node.statement = .optimize <;> simp [request]
      | some last => simp

theorem lastRequest?_lt_length {program : Program} {last : Nat}
    (found : program.lastRequest? = some last) : last < program.length := by
  have here := (lastRequest?_eq_some_iff.mp found).1
  by_contra beyond
  rw [List.getElem?_eq_none (Nat.le_of_not_lt beyond)] at here
  cases here

/-- The search looks at the statements only. -/
theorem lastRequest?_congr {before after : Program}
    (same : after.map (·.statement) = before.map (·.statement)) :
    after.lastRequest? = before.lastRequest? := by
  have search (program : Program) : program.lastRequest? =
      ((program.map (·.statement)).reverse.findIdx? (· = .optimize)).map
        ((program.map (·.statement)).length - 1 - ·) := by
    simp only [lastRequest?, ← List.map_reverse, List.findIdx?_map, List.length_map]
    rfl
  rw [search after, search before, same]

/-- What is due, by the search and the check that the pass makes. -/
theorem isDue_iff {program : Program} {place : Nat} {node : Node} :
    program.IsDue place node ↔
      (∃ last, program.lastRequest? = some last ∧ place < last) ∧ node.isPending = true := by
  have lacking : node.isPending = true ↔ node.category? ≠ none ∧ "Optimized" ∉ node.notes := by
    simp [Node.isPending, Node.optimizedNote, Option.isSome_iff_ne_none]
  rw [lacking]
  refine and_congr_left' ⟨?_, ?_⟩
  · rintro ⟨last, -, isLast, before⟩
    exact ⟨last, lastRequest?_eq_some_iff.mpr isLast, before⟩
  · rintro ⟨last, found, before⟩
    exact ⟨last, lastRequest?_lt_length found, lastRequest?_eq_some_iff.mp found, before⟩

end Program

/-! ## The pass at each place -/

namespace Pass

theorem getElem?_annotateBefore (program : Program) (place : Nat) :
    (annotateBefore program)[place]? =
      program[place]?.map fun node =>
        if program.IsDue place node then node.note "Optimized" else node := by
  unfold annotateBefore
  cases found : program.lastRequest? with
  | none => simp [Program.isDue_iff, found]
  | some last =>
    have inside := Program.lastRequest?_lt_length found
    by_cases before : place < last
    · have within : place < ((program.take last).map Node.annotate).length := by
        simp only [List.length_map, List.length_take]
        omega
      rw [List.getElem?_append_left within, List.getElem?_map, List.getElem?_take_of_lt before]
      simp only [Program.isDue_iff, found, Option.some.injEq, exists_eq_left', before, true_and]
      rfl
    · have length : ((program.take last).map Node.annotate).length = last := by
        simp only [List.length_map, List.length_take]
        omega
      have there : last + (place - last) = place := by omega
      rw [List.getElem?_append_right (by omega), length, List.getElem?_drop, there]
      simp [Program.isDue_iff, found, before]

/-- The pass changes each statement at its place: what is due gets the note behind its other
notes. -/
theorem annotateBefore_eq_mapIdx (program : Program) :
    annotateBefore program =
      program.mapIdx fun place node =>
        if program.IsDue place node then node.note "Optimized" else node := by
  apply List.ext_getElem?
  intro place
  rw [getElem?_annotateBefore, List.getElem?_mapIdx]

theorem statements_annotateBefore (program : Program) :
    (annotateBefore program).map (·.statement) = program.map (·.statement) := by
  apply List.ext_getElem?
  intro place
  rw [List.getElem?_map, getElem?_annotateBefore, List.getElem?_map, Option.map_map]
  congr 1
  funext node
  show Node.statement (if program.IsDue place node then node.note "Optimized" else node) = _
  split <;> rfl

/-- After the pass nothing is due. -/
theorem not_isDue_annotateBefore {program : Program} {place : Nat} {changed : Node}
    (there : (annotateBefore program)[place]? = some changed) :
    ¬Program.IsDue (annotateBefore program) place changed := by
  have search := Program.lastRequest?_congr (statements_annotateBefore program)
  rw [getElem?_annotateBefore] at there
  obtain ⟨node, -, rfl⟩ := Option.map_eq_some_iff.mp there
  rw [Program.isDue_iff, search]
  rintro ⟨before, pending⟩
  by_cases due : program.IsDue place node
  · rw [if_pos due] at pending
    simp [Node.isPending, Node.note, Node.optimizedNote] at pending
  · rw [if_neg due] at pending
    exact due (Program.isDue_iff.mpr ⟨before, pending⟩)

theorem annotateBefore_annotateBefore (program : Program) :
    annotateBefore (annotateBefore program) = annotateBefore program := by
  apply List.ext_getElem?
  intro place
  rw [getElem?_annotateBefore (annotateBefore program)]
  cases there : (annotateBefore program)[place]? with
  | none => rfl
  | some changed => rw [Option.map_some, if_neg (not_isDue_annotateBefore there)]

/-- The default pass on any program, whatever notes its statements carry. The check on passes
accepts it: there are as many statements as before, and at each place the same statement read from
the same span. The note stands behind the other notes of just those statements that come before the
last request, belong to a category and did not have it, and all other notes are as they were. A
second run changes nothing. -/
theorem annotate_notes_due_statements (program : Program) :
    let after := annotate.run program
    program.agrees after = true ∧ after.length = program.length ∧
    (∀ place node, program[place]? = some node →
      ∃ changed, after[place]? = some changed ∧ changed.statement = node.statement ∧
        changed.span = node.span ∧
        changed.notes =
          if program.IsDue place node then node.notes ++ ["Optimized"] else node.notes) ∧
    annotate.run after = after := by
  intro after
  have agrees : program.agrees after = true :=
    Program.agrees_iff_categories.mpr (categories_annotateBefore program).symm
  have length : after.length = program.length := by
    show (annotateBefore program).length = program.length
    rw [annotateBefore_eq_mapIdx, List.length_mapIdx]
  refine ⟨agrees, length, ?_, annotateBefore_annotateBefore program⟩
  intro place node there
  refine ⟨if program.IsDue place node then node.note "Optimized" else node, ?_, ?_⟩
  · show (annotateBefore program)[place]? = _
    rw [getElem?_annotateBefore, there]
    rfl
  · by_cases due : program.IsDue place node
    · simp [due, Node.note]
    · simp [due]

/-- Two requests, before which stand a transaction that has the note, a condition, and a task with
another note. An operation comes after them. -/
def revisited : Program :=
  [⟨.ledger "a", ⟨⟨1, 1⟩, ⟨1, 13⟩⟩, ["Optimized", "seen"]⟩,
    ⟨.conditional "b", ⟨⟨1, 14⟩, ⟨1, 20⟩⟩, []⟩,
    ⟨.optimize, ⟨⟨2, 1⟩, ⟨2, 9⟩⟩, ["seen"]⟩,
    ⟨.schedule .sync "c", ⟨⟨3, 1⟩, ⟨3, 7⟩⟩, ["seen"]⟩,
    ⟨.optimize, ⟨⟨4, 1⟩, ⟨4, 9⟩⟩, []⟩,
    ⟨.quantum "q" "x", ⟨⟨5, 1⟩, ⟨5, 12⟩⟩, []⟩]

theorem revisited_notes_due_statements :
    let after := annotate.run revisited
    after[0]?.map (·.notes) = some ["Optimized", "seen"] ∧
      after[3]?.map (·.notes) = some ["seen", "Optimized"] ∧
      after[5]?.map (·.notes) = some [] ∧ annotate.run after = after := by
  obtain ⟨-, -, noted, again⟩ := annotate_notes_due_statements revisited
  intro after
  obtain ⟨first, atFirst, -, -, firstNotes⟩ := noted 0 _ rfl
  obtain ⟨task, atTask, -, -, taskNotes⟩ := noted 3 _ rfl
  obtain ⟨last, atLast, -, -, lastNotes⟩ := noted 5 _ rfl
  rw [if_neg (by decide)] at firstNotes lastNotes
  rw [if_pos (by decide)] at taskNotes
  refine ⟨?_, ?_, ?_, again⟩
  · simp [after, atFirst, firstNotes]
  · simp [after, atTask, taskNotes]
  · simp [after, atLast, lastNotes]

end Pass

end TaskScript
