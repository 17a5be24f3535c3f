import TaskScript.Proofs.Lexer.Longest
import TaskScript.Proofs.Pipeline.Categories
import TaskScript.Proofs.Text.Numeral

/-!
# Records read back

A record is put together from fixed words and from texts that are copied as they stand, without
quotes or escapes. It can be taken apart again because no lexeme has a space or a line feed in it:
the output falls into lines, a line falls into words, and the words tell the label, the note of the
default pass and every field of the statement, each at a place of its own.

* `Statement.words`, `Record.lineOf_eq_unwords`: a line is a list of words.
* `Category.words_append_inj`, `Statement.words_inj`: the words tell the category and the fields.
* `Record.lineOf_inj`: two lines that are the same say the same.
* `Pipeline.records_decodable`: two texts with the same output have the same statements and notes.
-/

namespace TaskScript

/-! ## Words and lines -/

/-- The text has neither a space nor a line feed in it. -/
def IsSolid (text : String) : Prop := ' ' ∉ text.toList ∧ '\n' ∉ text.toList

instance decidableIsSolid (text : String) : Decidable (IsSolid text) :=
  inferInstanceAs (Decidable (_ ∧ _))

/-- Words with a space between any two of them. -/
def unwords (words : List String) : String := " ".intercalate words

theorem unwords_append {words others : List String} (some_ : words ≠ []) (more : others ≠ []) :
    unwords (words ++ others) = unwords words ++ " " ++ unwords others :=
  String.intercalate_append_of_ne_nil some_ more

theorem unwords_cons {word : String} {words : List String} (more : words ≠ []) :
    unwords (word :: words) = word ++ " " ++ unwords words :=
  String.intercalate_cons_of_ne_nil more

/-- Cutting at the spaces gives the words back. -/
theorem splitOn_unwords {words : List String} (solid : ∀ word ∈ words, IsSolid word)
    (some_ : words ≠ []) : (unwords words).toList.splitOn ' ' = words.map String.toList := by
  unfold unwords
  rw [String.toList_intercalate]
  refine List.splitOn_intercalate ' ' ?_ (by simpa using some_)
  intro chars member
  obtain ⟨word, isWord, rfl⟩ := List.mem_map.mp member
  exact (solid word isWord).1

theorem unwords_inj {words others : List String} (solid : ∀ word ∈ words, IsSolid word)
    (solidOthers : ∀ word ∈ others, IsSolid word) (some_ : words ≠ []) (someOthers : others ≠ [])
    (same : unwords words = unwords others) : words = others := by
  have cut := splitOn_unwords solid some_
  rw [same, splitOn_unwords solidOthers someOthers] at cut
  exact (List.map_injective_iff.mpr (fun _ _ => String.toList_injective) cut).symm

theorem feed_notMem_unwords {words : List String} (solid : ∀ word ∈ words, IsSolid word) :
    '\n' ∉ (unwords words).toList := by
  induction words with
  | nil => decide
  | cons word words ih =>
    have noFeed := (solid word List.mem_cons_self).2
    have later := ih fun other member => solid other (List.mem_cons_of_mem _ member)
    by_cases last : words = []
    · subst last
      exact noFeed
    · rw [unwords_cons last]
      simp [noFeed, later]

namespace Record

/-- Cutting the output at the line feeds gives the lines back, and nothing after the last. -/
theorem splitOn_emit {records : List Record}
    (oneLine : ∀ record ∈ records, '\n' ∉ record.line.toList) :
    (emit records).toList.splitOn '\n' = records.map (·.line.toList) ++ [[]] := by
  have joined : (emit records).toList =
      ['\n'].intercalate (records.map (·.line.toList) ++ [[]]) := by
    unfold emit
    rw [String.toList_ofList]
    induction records with
    | nil => rfl
    | cons record records ih =>
      have later := ih fun other member => oneLine other (List.mem_cons_of_mem _ member)
      rw [List.flatMap_cons, later, List.map_cons, List.cons_append,
        List.intercalate_cons_of_ne_nil (by simp)]
  rw [joined]
  refine List.splitOn_intercalate '\n' ?_ (by simp)
  intro line member
  rcases List.mem_append.mp member with isLine | isEmpty
  · obtain ⟨record, isRecord, rfl⟩ := List.mem_map.mp isLine
    exact oneLine record isRecord
  · rw [List.mem_singleton.mp isEmpty]
    exact List.not_mem_nil

end Record

/-- Where one view of the entries tells the other, equal lists of the one are equal lists of the
other. -/
theorem map_eq_map_of_determines {α β γ : Type} {f : α → β} {g : α → γ} {xs ys : List α}
    (determines : ∀ x ∈ xs, ∀ y ∈ ys, f x = f y → g x = g y) (same : xs.map f = ys.map f) :
    xs.map g = ys.map g := by
  induction xs generalizing ys with
  | nil =>
    cases ys with
    | nil => rfl
    | cons => cases same
  | cons x xs ih =>
    cases ys with
    | nil => cases same
    | cons y ys =>
      obtain ⟨first, rest⟩ := List.cons.inj same
      have later := ih (fun a inA b inB =>
        determines a (List.mem_cons_of_mem x inA) b (List.mem_cons_of_mem y inB)) rest
      rw [List.map_cons, List.map_cons, later,
        determines x List.mem_cons_self y List.mem_cons_self first]

/-! ## The words of a record -/

/-- The words of a label, with the colon after it. -/
def Category.words : Category → List String
  | quantum => ["Quantum", "Operation:"]
  | ledger => ["Blockchain", "Transaction:"]
  | declaration => ["Declare", "Variable:"]
  | function => ["Define", "Function:"]
  | allocation => ["Memory", "Allocation:"]
  | deallocation => ["Memory", "Deallocation:"]
  | task .sync => ["Sync", "Task", "Scheduled:"]
  | task .async => ["Async", "Task", "Scheduled:"]

/-- The words of a statement. -/
def Statement.words : Statement → List String
  | declaration name type value =>
    ["Declared", name, "of", "type", type, "with", "value", value]
  | function name params => ["Defined", "function", name, "with", "parameters", params]
  | conditional condition => ["if", "condition:", condition]
  | quantum qubit operation =>
    ["Quantum", "operation", "on", "qubit", qubit, "with", "operation", operation]
  | ledger transaction => ["Blockchain", "operation:", transaction, "executed"]
  | allocate size handle =>
    ["Allocated", Numeral.decimal size, "bytes", "of", "memory", "at", handle.text]
  | deallocate handle size =>
    ["Deallocated", Numeral.decimal size, "bytes", "of", "memory", "at", handle]
  | schedule .sync task => ["Synchronicity", "task", "for", task, "added", "to", "queue"]
  | schedule .async task => ["Asynchronous", "task", "for", task, "added", "to", "queue"]
  | optimize => ["Optimization", "requested", "for", "program"]

/-- The words of a statement that are not the same in all statements of its kind. -/
def Statement.fields : Statement → List String
  | declaration name type value => [name, type, value]
  | function name params => [name, params]
  | conditional condition => [condition]
  | quantum qubit operation => [qubit, operation]
  | ledger transaction => [transaction]
  | allocate size handle => [Numeral.decimal size, handle.text]
  | deallocate handle size => [Numeral.decimal size, handle]
  | schedule _ task => [task]
  | optimize => []

namespace Statement

theorem words_ne_nil (statement : Statement) : statement.words ≠ [] := by
  unfold words
  split <;> exact List.cons_ne_nil _ _

theorem text_eq_unwords (statement : Statement) : statement.text = unwords statement.words := by
  unfold unwords words text
  cases statement with
  | schedule mode task =>
    cases mode with
    | sync | async => exact String.ext (by simp)
  | declaration | function | conditional | quantum | ledger | allocate | deallocate | optimize =>
    exact String.ext (by simp)

/-- Statements of the same category with the same words are the same. -/
theorem words_inj {statement other : Statement} (alike : statement.category? = other.category?)
    (categorized : statement.category?.isSome = true) (same : statement.words = other.words) :
    statement = other := by
  cases statement with
  | conditional | optimize => cases categorized
  | declaration name type value =>
    cases other with
    | declaration => simpa [words] using same
    | _ => cases alike
  | function name params =>
    cases other with
    | function => simpa [words] using same
    | _ => cases alike
  | quantum qubit operation =>
    cases other with
    | quantum => simpa [words] using same
    | _ => cases alike
  | ledger transaction =>
    cases other with
    | ledger => simpa [words] using same
    | _ => cases alike
  | allocate size handle =>
    cases other with
    | allocate =>
      simpa [words, Numeral.decimal_injective.eq_iff, Handle.text_injective.eq_iff] using same
    | _ => cases alike
  | deallocate handle size =>
    cases other with
    | deallocate =>
      simpa [words, Numeral.decimal_injective.eq_iff, and_comm] using same
    | _ => cases alike
  | schedule mode task =>
    cases other with
    | schedule mode' task' =>
      obtain rfl : mode = mode' := by simpa [category?] using alike
      cases mode with
      | sync | async => simpa [words] using same
    | _ => cases alike

theorem solid_words {statement : Statement} (solid : ∀ field ∈ statement.fields, IsSolid field) :
    ∀ word ∈ statement.words, IsSolid word := by
  unfold words
  split <;> simp_all +decide [fields]

/-- No statement begins like the note of the default pass. -/
theorem head?_words (statement : Statement) : statement.words.head? ≠ some "Optimized:" := by
  unfold words
  split <;> simp

end Statement

namespace Category

theorem words_ne_nil (category : Category) : category.words ≠ [] := by
  unfold words
  split <;> exact List.cons_ne_nil _ _

theorem field_label_eq_unwords (category : Category) :
    Record.field category.label = unwords category.words ++ " " := by
  unfold Record.field label unwords words
  split <;> exact String.ext (by simp)

theorem solid_words (category : Category) : ∀ word ∈ category.words, IsSolid word := by
  rcases category with _ | _ | _ | _ | _ | _ | ⟨_ | _⟩ <;> decide

/-- A label ends where it says, so what follows it is known. -/
theorem words_append_inj {category other : Category} {rest left : List String}
    (same : category.words ++ rest = other.words ++ left) : category = other ∧ rest = left := by
  rcases category with _ | _ | _ | _ | _ | _ | ⟨_ | _⟩ <;>
    rcases other with _ | _ | _ | _ | _ | _ | ⟨_ | _⟩ <;>
    simp_all [words]

end Category

/-! ## Lines that can be read back -/

/-- A statement as the default pass leaves it: no word of it has a gap, and it has the note of that
pass or none. -/
structure Node.IsLegible (node : Node) : Prop where
  solid : ∀ word ∈ node.statement.words, IsSolid word
  notes : node.notes = [] ∨ node.notes = [Node.optimizedNote]

/-- The words of the line of a statement. -/
def Node.words (category : Category) (node : Node) : List String :=
  category.words ++ (node.notes.map (· ++ ":") ++ node.statement.words)

namespace Record

variable {category other : Category} {node node' : Node}

theorem lineOf_eq_unwords (category : Category) (node : Node) :
    lineOf category node = unwords (node.words category) := by
  have noted : String.join (node.notes.map field) ++ node.statement.text =
      unwords (node.notes.map (· ++ ":") ++ node.statement.words) := by
    induction node.notes with
    | nil => exact node.statement.text_eq_unwords
    | cons note notes ih =>
      have more : notes.map (· ++ ":") ++ node.statement.words ≠ [] := by
        simp [node.statement.words_ne_nil]
      have colon : field note = note ++ ":" ++ " " := by
        rw [field, String.append_assoc]
        rfl
      rw [List.map_cons, List.map_cons, String.join_cons, List.cons_append, unwords_cons more,
        ← ih, colon]
      simp only [String.append_assoc]
  unfold lineOf Node.words
  rw [unwords_append category.words_ne_nil (by simp [node.statement.words_ne_nil]), ← noted,
    category.field_label_eq_unwords, String.append_assoc]

theorem solid_words (legible : node.IsLegible) :
    ∀ word ∈ node.words category, IsSolid word := by
  intro word member
  rcases List.mem_append.mp member with label | rest
  · exact category.solid_words word label
  · rcases List.mem_append.mp rest with noted | stated
    · rcases legible.notes with none | one
      · simp [none] at noted
      · obtain rfl : word = "Optimized:" := by simpa [one, Node.optimizedNote] using noted
        decide
    · exact legible.solid word stated

theorem feed_notMem_lineOf (legible : node.IsLegible) : '\n' ∉ (lineOf category node).toList := by
  rw [lineOf_eq_unwords]
  exact feed_notMem_unwords (solid_words legible)

/-- The note of the default pass is told from the statement after it. -/
theorem notes_append_inj (legible : node.IsLegible) (legible' : node'.IsLegible)
    (same : node.notes.map (· ++ ":") ++ node.statement.words =
      node'.notes.map (· ++ ":") ++ node'.statement.words) :
    node.notes = node'.notes ∧ node.statement.words = node'.statement.words := by
  have first := congrArg List.head? same
  rcases legible.notes with none | one <;> rcases legible'.notes with none' | one'
  · simp_all
  · simp [none, one', Node.optimizedNote] at first
    exact absurd first node.statement.head?_words
  · simp [one, none', Node.optimizedNote] at first
    exact absurd first.symm node'.statement.head?_words
  · simp_all

/-- Two lines that are the same say the same. -/
theorem lineOf_inj (legible : node.IsLegible) (legible' : node'.IsLegible)
    (categorized : node.category? = some category) (categorized' : node'.category? = some other)
    (same : lineOf category node = lineOf other node') :
    node.statement = node'.statement ∧ node.notes = node'.notes := by
  rw [lineOf_eq_unwords, lineOf_eq_unwords] at same
  have words : node.words category = node'.words other :=
    unwords_inj (solid_words legible) (solid_words legible')
      (by simp [Node.words, category.words_ne_nil]) (by simp [Node.words, other.words_ne_nil]) same
  obtain ⟨rfl, rest⟩ := Category.words_append_inj words
  obtain ⟨notes, statements⟩ := notes_append_inj legible legible' rest
  refine ⟨Statement.words_inj ?_ ?_ statements, notes⟩
  · exact categorized.trans categorized'.symm
  · show node.category?.isSome = true
    rw [categorized]
    rfl

end Record

namespace Program

/-- The statements of a program that are emitted, with their categories. -/
def emitted (program : Program) : List (Category × Node) :=
  program.filterMap fun node => node.category?.map (·, node)

/-- What a program says: each statement that belongs to a category, and the notes on it. -/
def contents (program : Program) : List (Statement × List String) :=
  program.filterMap fun node => node.category?.map fun _ => (node.statement, node.notes)

theorem records_eq_emitted (program : Program) :
    program.records = program.emitted.map fun kept => ⟨kept.1, Record.lineOf kept.1 kept.2⟩ := by
  unfold records emitted
  rw [List.map_filterMap]
  simp only [Option.map_map]
  rfl

theorem contents_eq_emitted (program : Program) :
    program.contents = program.emitted.map fun kept => (kept.2.statement, kept.2.notes) := by
  unfold contents emitted
  rw [List.map_filterMap]
  simp only [Option.map_map]
  rfl

theorem mem_emitted {program : Program} {category : Category} {node : Node} :
    (category, node) ∈ program.emitted ↔ node ∈ program ∧ node.category? = some category := by
  simp only [emitted, List.mem_filterMap, Option.map_eq_some_iff, Prod.mk.injEq]
  constructor
  · rintro ⟨_, member, _, categorized, rfl, rfl⟩
    exact ⟨member, categorized⟩
  · rintro ⟨member, categorized⟩
    exact ⟨node, member, category, categorized, rfl, rfl⟩

variable {program other : Program}

theorem feed_notMem_records (legible : ∀ node ∈ program, node.IsLegible) :
    ∀ record ∈ program.records, '\n' ∉ record.line.toList := by
  intro record member
  rw [records_eq_emitted] at member
  obtain ⟨⟨category, node⟩, isEmitted, rfl⟩ := List.mem_map.mp member
  exact Record.feed_notMem_lineOf (legible node (mem_emitted.mp isEmitted).1)

/-- Programs with the same output say the same. -/
theorem contents_eq_of_emit_eq (legible : ∀ node ∈ program, node.IsLegible)
    (legible' : ∀ node ∈ other, node.IsLegible)
    (same : Record.emit program.records = Record.emit other.records) :
    program.contents = other.contents := by
  have lines := Record.splitOn_emit (feed_notMem_records legible)
  rw [same, Record.splitOn_emit (feed_notMem_records legible')] at lines
  have texts := (List.append_cancel_right lines).symm
  rw [records_eq_emitted, records_eq_emitted, List.map_map, List.map_map] at texts
  rw [contents_eq_emitted, contents_eq_emitted]
  refine map_eq_map_of_determines ?_ texts
  rintro ⟨category, node⟩ member ⟨category', node'⟩ member' alike
  obtain ⟨isNode, categorized⟩ := mem_emitted.mp member
  obtain ⟨isNode', categorized'⟩ := mem_emitted.mp member'
  obtain ⟨statement, notes⟩ := Record.lineOf_inj (legible node isNode) (legible' node' isNode')
    categorized categorized' (String.toList_injective alike)
  rw [statement, notes]

end Program

/-! ## What is parsed can be read back -/

theorem Located.solid_of_mem_tokenize {source : Source} {token : Located Token}
    (member : token ∈ source.tokenize.tokens) : IsSolid (Construct.lexeme token) := by
  have spells := Source.spells_of_mem_tokenize member
  exact ⟨LexemeClass.notMem_of_spells spells (by decide) (by decide),
    LexemeClass.notMem_of_spells spells (by decide) (by decide)⟩

theorem Numeral.solid_decimal (n : Nat) : IsSolid (decimal n) := by
  unfold IsSolid decimal
  rw [String.toList_ofList]
  exact ⟨notMem_toDigits (by decide) (by decide) (by decide) n,
    notMem_toDigits (by decide) (by decide) (by decide) n⟩

theorem Handle.solid_text (handle : Handle) : IsSolid handle.text := by
  unfold IsSolid text Numeral.hex
  rw [String.toList_append, String.toList_ofList]
  have noSpace : ' ' ∉ Nat.toDigits 16 handle.address :=
    Numeral.notMem_toDigits (by decide) (by decide) (by decide) _
  have noFeed : '\n' ∉ Nat.toDigits 16 handle.address :=
    Numeral.notMem_toDigits (by decide) (by decide) (by decide) _
  simp [noSpace, noFeed]

/-- Every field of a statement is a lexeme of the tokens that spell it, or comes from the heap. -/
theorem Construct.Spells.solid_fields {keyword : Keyword} {operands : List (Located Token)}
    {statement : Statement} (spells : Spells keyword operands statement)
    (solid : ∀ token ∈ operands, IsSolid (lexeme token)) :
    ∀ field ∈ statement.fields, IsSolid field := by
  cases spells with
  | allocate handle isAllocate sized =>
    simp [Statement.fields, Numeral.solid_decimal, Handle.solid_text]
  | deallocate argument size isDeallocate =>
    simp_all [Statement.fields, Numeral.solid_decimal]
  | declaration | function | conditional | quantum | ledger | sync | async | optimize =>
    simp_all [Statement.fields]

/-- What is read from tokens without gaps can be read back. -/
theorem State.Reads.legible {s : State} {blocks : List Block} {parsed : Parsed}
    (reads : s.Reads blocks parsed)
    (solid : ∀ block ∈ blocks, ∀ token ∈ block.tokens, IsSolid (Construct.lexeme token)) :
    ∀ node ∈ parsed.nodes, node.IsLegible := by
  induction reads with
  | nil s => simp
  | skipped plain reads ih =>
    exact ih fun block member => solid block (List.mem_cons_of_mem _ member)
  | construct leads full done reads ih =>
    have spells := (Construct.read_ok done).1
    have later := ih fun block member => solid block (List.mem_cons_of_mem _ member)
    intro node member
    rcases List.mem_cons.mp member with rfl | behind
    · refine ⟨Statement.solid_words (spells.solid_fields ?_), .inl rfl⟩
      intro token isOperand
      exact solid _ List.mem_cons_self token (List.mem_cons_of_mem _ isOperand)
    · exact later node behind

theorem Node.IsLegible.annotate {node : Node} (legible : node.IsLegible) :
    node.annotate.IsLegible := by
  unfold Node.annotate
  split
  case isTrue pending =>
    refine ⟨legible.solid, .inr ?_⟩
    rcases legible.notes with none | one
    · simp [Node.note, none]
    · simp [Node.isPending, one] at pending
  case isFalse => exact legible

theorem Pass.legible_annotateBefore {program : Program}
    (legible : ∀ node ∈ program, node.IsLegible) :
    ∀ node ∈ annotateBefore program, node.IsLegible := by
  unfold annotateBefore
  split
  case h_1 => exact legible
  case h_2 request _ =>
    intro node member
    rcases List.mem_append.mp member with before | behind
    · obtain ⟨old, taken, rfl⟩ := List.mem_map.mp before
      exact (legible old (List.mem_of_mem_take taken)).annotate
    · exact legible node (List.mem_of_mem_drop behind)

namespace Pipeline

variable {p : Pipeline} {plan : Plan} {name text : String}

/-- The pass is the default one, or none is run. -/
def Annotates (p : Pipeline) : Prop :=
  p.config.effectiveOptions.skipOptimize = true ∨ p.pass = .annotate

/-- The program that the records of a text are made from. -/
def program? (p : Pipeline) (name text : String) : Option Program :=
  p.optimized? (State.parse {} (Source.ofText name text).tokenize.tokens).nodes

theorem legible_of_optimized? (annotates : p.Annotates) {program after : Program}
    (legible : ∀ node ∈ program, node.IsLegible) (accepted : p.optimized? program = some after) :
    ∀ node ∈ after, node.IsLegible := by
  unfold optimized? at accepted
  split at accepted
  case isTrue =>
    cases accepted
    exact legible
  case isFalse runs =>
    dsimp only at accepted
    split at accepted
    case isTrue =>
      cases accepted
      rw [annotates.resolve_left runs]
      exact Pass.legible_annotateBefore legible
    case isFalse => cases accepted

/-- The records of a text that compiles are those of a program that can be read back from them. -/
theorem exists_legible_program (annotates : p.Annotates) {compiled : Compiled}
    (succeeds : (p.compileUnder plan name text).result = .ok compiled) :
    ∃ program : Program, p.program? name text = some program ∧
      compiled.records = program.records ∧ ∀ node ∈ program, node.IsLegible := by
  obtain ⟨-, succeeded, program, accepted, records⟩ := program_of_ok succeeds
  refine ⟨program, accepted, records, legible_of_optimized? annotates ?_ accepted⟩
  obtain ⟨blocks, whole, reads⟩ := State.exists_reads succeeded
  refine reads.legible ?_
  intro block isBlock token isToken
  apply Located.solid_of_mem_tokenize
  rw [← whole]
  exact List.mem_flatMap.mpr ⟨block, isBlock, isToken⟩

/-- The output tells what was compiled. If two texts compile to the same bytes, under the default
pass or under none, then the two programs have the same statements with categories, in every field
and with the same notes, in the same order. Cut at its line feeds, an output is the lines of the
records with nothing left over, so a record takes one line whatever the text has in it. -/
theorem records_decodable (p q : Pipeline) (plan plan' : Plan) (name text name' text' : String)
    (compiled compiled' : Compiled) (annotates : p.Annotates) (annotates' : q.Annotates)
    (succeeds : (p.compileUnder plan name text).result = .ok compiled)
    (succeeds' : (q.compileUnder plan' name' text').result = .ok compiled') :
    ∃ program program' : Program,
      p.program? name text = some program ∧ compiled.records = program.records ∧
      q.program? name' text' = some program' ∧ compiled'.records = program'.records ∧
      ((Record.emit compiled.records).toUTF8 = (Record.emit compiled'.records).toUTF8 →
        program.contents = program'.contents) ∧
      (Record.emit compiled.records).toList.splitOn '\n' =
        compiled.records.map (·.line.toList) ++ [[]] := by
  obtain ⟨program, found, records, legible⟩ := exists_legible_program annotates succeeds
  obtain ⟨program', found', records', legible'⟩ := exists_legible_program annotates' succeeds'
  refine ⟨program, program', found, records, found', records', ?_, ?_⟩
  · intro bytes
    have same := String.toByteArray_inj.mp bytes
    rw [records, records'] at same
    exact Program.contents_eq_of_emit_eq legible legible' same
  · rw [records]
    exact Record.splitOn_emit (Program.feed_notMem_records legible)

/-- Words of the records themselves in the places of a declaration. -/
def confusing : String := "let : : with = of optimize"

/-- The same, with a comment and other blanks between the tokens. -/
def confusingSpread : String := "let : :\twith // optimize\n= of\noptimize"

theorem confusing_decodable :
    ∃ compiled compiled',
      ((ofConfig {}).compile "" confusing).result = .ok compiled ∧
      ((ofConfig {}).compile "" confusingSpread).result = .ok compiled' ∧
      (Record.emit compiled.records).toUTF8 = (Record.emit compiled'.records).toUTF8 ∧
      ((ofConfig {}).program? "" confusing).map Program.contents =
        ((ofConfig {}).program? "" confusingSpread).map Program.contents ∧
      ((Record.emit compiled.records).toList.splitOn '\n').length = 2 := by
  obtain ⟨compiled, succeeds⟩ :=
    exists_compiled (show ((ofConfig {}).compile "" confusing).result.isOk = true by decide +kernel)
  obtain ⟨compiled', succeeds'⟩ := exists_compiled
    (show ((ofConfig {}).compile "" confusingSpread).result.isOk = true by decide +kernel)
  obtain ⟨program, program', found, records, found', records', decoded, lines⟩ :=
    records_decodable (ofConfig {}) (ofConfig {}) _ _ "" confusing "" confusingSpread compiled
      compiled' (.inr rfl) (.inr rfl) succeeds succeeds'
  have nodes : (State.parse {} (Source.ofText "" confusing).tokenize.tokens).nodes =
      [⟨.declaration ":" "with" "of", ⟨⟨1, 1⟩, ⟨1, 18⟩⟩, []⟩,
        ⟨.optimize, ⟨⟨1, 19⟩, ⟨1, 27⟩⟩, []⟩] := by decide +kernel
  have nodes' : (State.parse {} (Source.ofText "" confusingSpread).tokenize.tokens).nodes =
      [⟨.declaration ":" "with" "of", ⟨⟨1, 1⟩, ⟨2, 5⟩⟩, []⟩,
        ⟨.optimize, ⟨⟨3, 1⟩, ⟨3, 9⟩⟩, []⟩] := by decide +kernel
  rw [program?, nodes] at found
  rw [program?, nodes'] at found'
  obtain rfl := Option.some.inj found
  obtain rfl := Option.some.inj found'
  have bytes : (Record.emit compiled.records).toUTF8 = (Record.emit compiled'.records).toUTF8 := by
    rw [records, records']
    rfl
  refine ⟨compiled, compiled', succeeds, succeeds', bytes, ?_, ?_⟩
  · rw [program?, program?, nodes, nodes']
    exact congrArg some (decoded bytes)
  · rw [lines, records]
    rfl

end Pipeline

end TaskScript
