import AsmNotebook.Proofs.Prompt.Blocks
import AsmNotebook.Proofs.Prompt.Numerals

namespace AsmNotebook
namespace Prompt

/-!
# Cells by their numbers

A command takes the number of a cell, finds the cell at this position, and acts
in the name of its identifier.  What it acts on is the foremost cell with this
identifier.  That is the cell with the number exactly if no cell before it has
the same identifier, and nothing that loads a notebook makes sure of this.

So the statements name two cells: the one that has the number, and the foremost
one that bears its identifier.
-/

open Work (Service Runner follow follow_bind)

/-- The cell with a number.  Numbers beyond 64 bits are no numbers of cells. -/
def numbered? (number : Nat) (notebook : Notebook) : Option Cell :=
  if 0 < number ∧ number < UInt64.size then notebook.cells[number - 1]? else none

/-- A command word stands for a command that takes a number and acts on the cell with it. -/
structure TakesNumber (word : String) (command : Nat → Command)
    (act : State → Nat → String → Work Response) : Prop where
  sharp : ∀ c ∈ word.toList, Text.isBlank c = false
  parsed : ∀ argument, Command.ofParts word argument = (cellIndex argument).map command
  executed : ∀ state index, execute state (command index) = withCell state index (act state index)

variable {word : String} {command : Nat → Command} {act : State → Nat → String → Work Response}
variable {state : State} {number : Nat} {named : Cell}

namespace TakesNumber

variable (takes : TakesNumber word command act)
include takes

theorem take (closed : state.block = []) (number : Nat) :
    Prompt.take state (numberedLine word number) =
      match cellIndex (some (toString number)) with
      | .ok index => withCell state index (act state index)
      | .error message => .done (more state (Render.line message)) := by
  have isCommand := isCommandLine_numberedLine word number
  simp only [Prompt.take, closed, isCommand, List.isEmpty_nil, Bool.and_self, if_true,
    parse_numberedLine takes.sharp, takes.parsed]
  cases cellIndex (some (toString number)) with
  | ok index => exact takes.executed state index
  | error message => rfl

/-- The command acts in the name of the cell with the number. -/
theorem take_of_numbered (closed : state.block = [])
    (there : numbered? number state.app.notebook = some named) :
    Prompt.take state (numberedLine word number) = act state (number - 1) named.id := by
  unfold numbered? at there
  split at there
  · next inside =>
    rw [takes.take closed, cellIndex_toString, if_pos inside]
    simp only [withCell, cellAt?, there, Option.map_some]
  · cases there

/-- Where no cell has the number, nothing happens. -/
theorem take_of_unnumbered (closed : state.block = [])
    (absent : numbered? number state.app.notebook = none) :
    ∃ shown, Prompt.take state (numberedLine word number) = .done (more state shown) := by
  rw [takes.take closed, cellIndex_toString]
  unfold numbered? at absent
  split at absent
  · next inside =>
    refine ⟨noCell (number - 1), ?_⟩
    rw [if_pos inside]
    simp only [withCell, cellAt?, absent, Option.map_none]
  · next outside =>
    rw [if_neg outside]
    exact ⟨_, rfl⟩

end TakesNumber

/-- What `:delete` does in the name of a cell. -/
def actDelete (state : State) (index : Nat) (cellId : String) : Work Response :=
  .done (more { state with app := (state.app.edit (.delete cellId)).1 }
    (Render.line ("deleted cell " ++ toString (index + 1))))

/-- What `:edit` does in the name of a cell. -/
def actEdit (state : State) (index : Nat) (cellId : String) : Work Response :=
  .done (more { state with target := .replace cellId }
    (Render.line ("editing cell " ++ toString (index + 1) ++ "; end with an empty line")))

/-- What `:run` does in the name of a cell. -/
def actRun (state : State) (_ : Nat) (cellId : String) : Work Response :=
  (state.app.run cellId).bind fun (app, outcome) =>
    .done (more { state with app := app } (shownOutcome outcome))

theorem takesNumber_delete : TakesNumber "delete" .delete actDelete where
  sharp := by simp [Text.isBlank]
  parsed := fun _ => rfl
  executed := fun _ _ => rfl

theorem takesNumber_edit : TakesNumber "edit" .edit actEdit where
  sharp := by simp [Text.isBlank]
  parsed := fun _ => rfl
  executed := fun _ _ => rfl

theorem takesNumber_run : TakesNumber "run" .run actRun where
  sharp := by simp [Text.isBlank]
  parsed := fun _ => rfl
  executed := fun _ _ => rfl

/-- A line that is taken without a question is read. -/
theorem readOn_of_done {line : String} {next : State} {shown : String}
    (taken : take state line = .done (more next shown))
    (rest : List (Except Text.InvalidBytes String)) :
    readOn state (.ok line :: rest) = readOn next rest := by
  rw [readOn, taken]
  rfl

/-- Lines that are not blank gather, and the first one is no command. -/
theorem readOn_block {block : List String} (solid : Text.Solid block)
    (plain : state.block = [] → ∀ first ∈ block.head?, isCommandLine first = false)
    (rest : List (Except Text.InvalidBytes String)) :
    readOn state (block.map .ok ++ rest) =
      readOn { state with block := state.block ++ block } rest := by
  induction block generalizing state with
  | nil => rw [List.map_nil, List.nil_append, List.append_nil]
  | cons line block inductionHypothesis =>
    have filled := solid line List.mem_cons_self
    have later : Text.Solid block := fun other member => solid other (List.mem_cons_of_mem _ member)
    have taken := take_of_filled filled fun closed => plain closed line rfl
    rw [List.map_cons, List.cons_append, readOn_of_done taken,
      inductionHypothesis later (by simp), List.append_assoc, List.singleton_append]

variable {σ φ : Type}

/-- What the commands with a number do to a cell between others, and to nothing else. -/
structure ActsOn (serve : Service σ) (errands : Runner φ) (services : σ) (files : φ) (app : App)
    (number : Nat) (front : List Cell) (cell : Cell) (back : List Cell) : Prop where
  delete : readOn (start app) [.ok (numberedLine "delete" number)] =
    .done (some (start (app.withNotebook (app.notebook.leaving (front ++ back)))))
  edit : ∀ block blank, Text.Solid block → block ≠ [] →
    (∀ first ∈ block.head?, isCommandLine first = false) → Text.isBlankLine blank = true →
      readOn (start app) ((numberedLine "edit" number :: (block ++ [blank])).map .ok) =
        .done (some (start (app.withNotebook
          { app.notebook with
            cells := front ++ { cell with content := "\n".intercalate block } :: back })))
  run : cell.isBlank = false → ∃ ran, App.RanAt serve services files app front cell back ran ∧
    follow serve errands services files
      (readOn (start app) [.ok (numberedLine "run" number)]) = (ran.1, some (start ran.2.1))

variable {serve : Service σ} {errands : Runner φ} {services : σ} {files : φ}
variable {app : App} {front back : List Cell} {cell : Cell}

section Foremost

variable (foremost : app.notebook.Foremost front cell back)
include foremost

theorem readOn_delete (there : numbered? number app.notebook = some named)
    (same : cell.id = named.id) :
    readOn (start app) [.ok (numberedLine "delete" number)] =
      .done (some (start (app.withNotebook (app.notebook.leaving (front ++ back))))) := by
  have closed : (start app).block = [] := rfl
  have taken := takesNumber_delete.take_of_numbered closed there
  rw [readOn_of_done taken, ← foremost.delete, same]
  rfl

theorem readOn_edit (there : numbered? number app.notebook = some named)
    (same : cell.id = named.id) {block : List String} {blank : String} (solid : Text.Solid block)
    (filled : block ≠ []) (plain : ∀ first ∈ block.head?, isCommandLine first = false)
    (ends : Text.isBlankLine blank = true) :
    readOn (start app) ((numberedLine "edit" number :: (block ++ [blank])).map .ok) =
      .done (some (start (app.withNotebook
        { app.notebook with
          cells := front ++ { cell with content := "\n".intercalate block } :: back }))) := by
  have closed : (start app).block = [] := rfl
  have taken := takesNumber_edit.take_of_numbered closed there
  rw [List.map_cons, List.map_append, readOn_of_done taken, readOn_block solid fun _ => plain]
  have closes : take ⟨app, .replace named.id, block⟩ blank = submit _ :=
    take_of_closed filled ends
  rw [← foremost.setContent, same]
  exact readOn_of_done (closes.trans rfl) []

theorem follow_readOn_run (rests : app.AtRest) (there : numbered? number app.notebook = some named)
    (same : cell.id = named.id) (readable : cell.isBlank = false) :
    ∃ ran, App.RanAt serve services files app front cell back ran ∧
      follow serve errands services files
        (readOn (start app) [.ok (numberedLine "run" number)]) = (ran.1, some (start ran.2.1)) := by
  have closed : (start app).block = [] := rfl
  have taken := takesNumber_run.take_of_numbered closed there
  refine ⟨_, App.run_foremost foremost rests readable serve errands services files, ?_⟩
  rw [readOn, taken, same, actRun, Dialogue.bind_assoc, follow_bind]
  rfl

end Foremost

/-- The cell that a number leads to: the foremost one with the identifier of the cell that has the
number.  It is this cell itself exactly if no cell before has the identifier. -/
structure LeadsTo (notebook : Notebook) (number : Nat) (named : Cell) (front : List Cell)
    (cell : Cell) (back : List Cell) : Prop where
  foremost : notebook.Foremost front cell back
  same : cell.id = named.id
  right : (front.length + 1 = number ∧ cell = named) ↔
    ∀ earlier ∈ notebook.cells.take (number - 1), earlier.id ≠ named.id

theorem exists_leadsTo {notebook : Notebook} (there : numbered? number notebook = some named) :
    ∃ front cell back, LeadsTo notebook number named front cell back := by
  unfold numbered? at there
  split at there
  · next inside =>
    rcases Notebook.exists_foremost there with ⟨front, cell, back, foremost, same⟩
    have position := foremost.length_eq_iff there same
    refine ⟨front, cell, back, foremost, same, ?_⟩
    rw [← position]
    -- At the position of the number there is no other cell than the one with the number.
    constructor
    · rintro ⟨length, _⟩
      omega
    · intro length
      have found := there
      rw [foremost.cells, ← length, List.getElem?_append_right (Nat.le_refl _),
        Nat.sub_self] at found
      exact ⟨by omega, Option.some.inj found⟩
  · cases there

/-- A command with a number acts on the foremost cell with the identifier of the cell that has the
number, and on nothing else.  If no cell has the number, the command changes nothing. -/
theorem numbers_lead_to_cells (rests : app.AtRest) (number : Nat) (serve : Service σ)
    (errands : Runner φ) (services : σ) (files : φ) :
    (∀ named, numbered? number app.notebook = some named →
      ∃ front cell back, LeadsTo app.notebook number named front cell back ∧
        ActsOn serve errands services files app number front cell back) ∧
    (numbered? number app.notebook = none → ∀ word ∈ ["delete", "edit", "run"],
      readOn (start app) [.ok (numberedLine word number)] = .done (some (start app))) := by
  constructor
  · intro named there
    rcases exists_leadsTo there with ⟨front, cell, back, leads⟩
    exact ⟨front, cell, back, leads,
      readOn_delete leads.foremost there leads.same,
      fun _ _ => readOn_edit leads.foremost there leads.same,
      follow_readOn_run leads.foremost rests there leads.same⟩
  · intro absent word member
    have ignored {word : String} {command : Nat → Command}
        {act : State → Nat → String → Work Response} (takes : TakesNumber word command act) :
        readOn (start app) [.ok (numberedLine word number)] = .done (some (start app)) := by
      have closed : (start app).block = [] := rfl
      rcases takes.take_of_unnumbered closed absent with ⟨shown, taken⟩
      exact readOn_of_done taken []
    simp only [List.mem_cons, List.not_mem_nil, or_false] at member
    rcases member with rfl | rfl | rfl
    · exact ignored takesNumber_delete
    · exact ignored takesNumber_edit
    · exact ignored takesNumber_run

theorem numbers_lead_to_cells_first :
    (App.new blankEnd).AtRest ∧ numbered? 1 blankEnd = some (.new "a" .code "NOP") ∧
      (∃ front cell back, LeadsTo blankEnd 1 (.new "a" .code "NOP") front cell back ∧
        ActsOn steadyServices emptyFiles 0 () (.new blankEnd) 1 front cell back) ∧
      readOn (start (.new blankEnd)) [.ok (numberedLine "delete" 3)] =
        .done (some (start (.new blankEnd))) := by
  have rests := App.atRest_new blankEnd
  have first := numbers_lead_to_cells rests 1 steadyServices emptyFiles 0 ()
  have third := numbers_lead_to_cells rests 3 steadyServices emptyFiles 0 ()
  exact ⟨rests, rfl, first.1 _ rfl, third.2 rfl "delete" List.mem_cons_self⟩

/-- Two cells with one identifier. -/
def namesakes : Notebook where
  cells := [.new "x" .code "A", .new "x" .code "B"]
  executionCount := 0
  nextId := 0

/-- A session may hold two cells with one identifier.  To delete the second deletes the first. -/
theorem namesake_deleted :
    Notebook.load 0 (some (namesakes.save "")) = namesakes ∧
      namesakes.cells.map Cell.content = ["A", "B"] ∧
      ∃ after,
        readOn (start (.new namesakes)) [.ok (numberedLine "delete" 2)] = .done (some after) ∧
        after.app.notebook.cells.map Cell.content = ["B"] := by
  have filled : namesakes.cells ≠ [] := List.cons_ne_nil _ _
  exact ⟨Notebook.load_save filled "" 0, rfl, _, rfl, rfl⟩

end Prompt
end AsmNotebook
