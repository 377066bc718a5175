import AsmNotebook.Proofs.Prompt.Restart
import AsmNotebook.Proofs.Text.Trim
import AsmNotebook.Proofs.Upshot

namespace AsmNotebook

/-!
# Blocks of lines

An input without commands is a text in paragraphs: maximal runs of lines that
are not blank.  The prompt reads it line by line, and holds an open block, a
target and the notebook.  What comes of this is one cell for each paragraph,
run as soon as the paragraph is complete.

The first paragraph may go to a cell that is there, if it is the last one and
blank code.  After that the last cell is never blank, so all others are new.
-/

namespace Text

/-- Whether a line is blank. -/
def isBlankLine (line : String) : Bool :=
  (trim line).isEmpty

/-- Maximal runs of lines that are not blank. -/
def paragraphs (lines : List String) : List (List String) :=
  (lines.splitOnP isBlankLine).filter fun block => !block.isEmpty

variable {block rest : List String} {line : String}

/-- No line is blank. -/
def Solid (block : List String) : Prop :=
  ∀ line ∈ block, isBlankLine line = false

theorem solid_nil : Solid [] :=
  fun _ member => absurd member List.not_mem_nil

theorem Solid.concat (solid : Solid block) (filled : isBlankLine line = false) :
    Solid (block ++ [line]) := by
  intro other member
  rcases List.mem_append.1 member with before | last
  · exact solid other before
  · exact List.mem_singleton.1 last ▸ filled

/-- A blank line ends a run. -/
theorem paragraphs_closed (solid : Solid block) (blank : isBlankLine line = true)
    (rest : List String) :
    paragraphs (block ++ line :: rest) =
      if block = [] then paragraphs rest else block :: paragraphs rest := by
  rw [paragraphs, List.splitOnP_append_cons_of_forall_mem solid line blank, List.filter_cons]
  by_cases empty : block = []
  · simp [empty, paragraphs]
  · simp [empty, paragraphs]

/-- The end of the lines ends a run. -/
theorem paragraphs_open (solid : Solid block) :
    paragraphs block = if block = [] then [] else [block] := by
  rw [paragraphs, List.splitOnP_eq_singleton solid, List.filter_cons]
  by_cases empty : block = []
  · simp [empty]
  · simp [empty]

/-- Every run has lines, and none of them is blank. -/
theorem solid_of_mem_paragraphs (solid : Solid block) (rest : List String) :
    ∀ run ∈ paragraphs (block ++ rest), Solid run ∧ run ≠ [] := by
  induction rest generalizing block with
  | nil =>
    rw [List.append_nil, paragraphs_open solid]
    intro run member
    split at member
    · cases member
    · cases List.mem_singleton.1 member
      exact ⟨solid, ‹_›⟩
  | cons line rest inductionHypothesis =>
    cases blank : isBlankLine line with
    | true =>
      rw [paragraphs_closed solid blank]
      have later : ∀ run ∈ paragraphs rest, Solid run ∧ run ≠ [] :=
        inductionHypothesis solid_nil
      intro run member
      split at member
      · exact later run member
      · rcases List.mem_cons.1 member with rfl | member
        · exact ⟨solid, ‹_›⟩
        · exact later run member
    | false =>
      have longer := inductionHypothesis (solid.concat blank)
      rwa [List.append_assoc] at longer

/-- A run that was begun goes on to the next blank line. -/
theorem exists_paragraph (solid : Solid block) (filled : block ≠ []) (rest : List String) :
    ∃ more, block ++ more ∈ paragraphs (block ++ rest) := by
  induction rest generalizing block with
  | nil =>
    refine ⟨[], ?_⟩
    rw [List.append_nil, paragraphs_open solid, if_neg filled]
    exact List.mem_singleton_self block
  | cons line rest inductionHypothesis =>
    cases blank : isBlankLine line with
    | true =>
      refine ⟨[], ?_⟩
      rw [List.append_nil, paragraphs_closed solid blank, if_neg filled]
      exact List.mem_cons_self
    | false =>
      rcases inductionHypothesis (solid.concat blank) (by simp) with ⟨more, member⟩
      refine ⟨line :: more, ?_⟩
      simpa using member

/-- Lines make no blank text, unless all of them are blank. -/
theorem isEmpty_trim_intercalate (solid : Solid block) (filled : block ≠ []) :
    (trim ("\n".intercalate block)).isEmpty = false := by
  rcases List.exists_cons_of_ne_nil filled with ⟨first, others, rfl⟩
  have visible : ¬ AllBlank first.toList := by
    rw [← isEmpty_trim_iff]
    exact Bool.eq_false_iff.1 (solid first List.mem_cons_self)
  rw [Bool.eq_false_iff]
  intro blank
  apply visible
  intro c member
  apply isEmpty_trim_iff.1 blank c
  rw [String.toList_intercalate, List.map_cons]
  cases others with
  | nil => simpa using member
  | cons second others => simp [List.intercalate, member]

end Text

namespace Notebook

/-- The last cell, if it is blank code. -/
def room? (notebook : Notebook) : Option Cell :=
  notebook.cells.getLast?.filter fun cell => cell.kind == .code && cell.isBlank

/-- Cells that stay as they are when a text is added. -/
def staying (notebook : Notebook) : List Cell :=
  match notebook.room? with
  | some _ => notebook.cells.dropLast
  | none => notebook.cells

/-- The cell for a text that is added: the last one if it is blank code, and a new one otherwise. -/
def roomFor (content : String) (notebook : Notebook) : Cell :=
  match notebook.room? with
  | some cell => { cell with content := content }
  | none => .new (freshId notebook.nextId) .code content

/-- The supply of identifiers after a text was added. -/
def supplyAfter (notebook : Notebook) : Nat :=
  match notebook.room? with
  | some _ => notebook.nextId
  | none => notebook.nextId + 1

/-- The notebook with a text at its end. -/
def withText (content : String) (notebook : Notebook) : Notebook where
  cells := notebook.staying ++ [notebook.roomFor content]
  executionCount := notebook.executionCount
  nextId := notebook.supplyAfter

/-- New cells of code, identified from a number on. -/
def newCells (firstId : Nat) : List String → List Cell
  | [] => []
  | content :: rest => .new (freshId firstId) .code content :: newCells (firstId + 1) rest

variable {notebook : Notebook} {content : String} {cell : Cell}

theorem cells_of_room (room : notebook.room? = some cell) :
    notebook.cells = notebook.cells.dropLast ++ [cell] ∧ cell.kind = .code ∧
      cell.isBlank = true := by
  rcases Option.filter_eq_some_iff.1 room with ⟨last, blank⟩
  rcases List.getLast?_eq_some_iff.1 last with ⟨front, cells⟩
  refine ⟨?_, by simpa using blank⟩
  rw [cells, List.dropLast_concat]

theorem roomFor_kind (notebook : Notebook) (content : String) :
    (notebook.roomFor content).kind = .code := by
  unfold roomFor
  cases room : notebook.room? with
  | none => rfl
  | some cell => exact (cells_of_room room).2.1

theorem roomFor_content (notebook : Notebook) (content : String) :
    (notebook.roomFor content).content = content := by
  unfold roomFor
  cases notebook.room? <;> rfl

/-- A cell that is not blank leaves no room behind it. -/
theorem room?_of_readable {cells : List Cell} {executionCount : UInt32} {nextId : Nat}
    (readable : cell.isBlank = false) : room? ⟨cells ++ [cell], executionCount, nextId⟩ = none := by
  rw [room?, List.getLast?_concat, Option.filter_some, readable, Bool.and_false]
  rfl

theorem withText_of_room (room : notebook.room? = some cell) (content : String) :
    notebook.withText content =
        { notebook with cells := notebook.cells.dropLast ++ [{ cell with content := content }] } ∧
      notebook.staying = notebook.cells.dropLast ∧
      notebook.roomFor content = { cell with content := content } := by
  simp only [withText, staying, roomFor, supplyAfter, room, and_self]

theorem withText_of_no_room (room : notebook.room? = none) (content : String) :
    notebook.withText content =
        { notebook with
          cells := notebook.cells ++ [.new (freshId notebook.nextId) .code content]
          nextId := notebook.nextId + 1 } ∧
      notebook.staying = notebook.cells ∧
      notebook.roomFor content = .new (freshId notebook.nextId) .code content := by
  simp only [withText, staying, roomFor, supplyAfter, room, and_self]

/-- A text that is placed is at the end, in the foremost cell of its identifier, and identifiers
stay distinct. -/
theorem place_withText (identified : notebook.Identified) (content : String) :
    Prompt.place content notebook =
        (notebook.withText content, (notebook.roomFor content).id) ∧
      (notebook.withText content).Foremost notebook.staying (notebook.roomFor content) [] ∧
      (notebook.withText content).Identified := by
  cases room : notebook.room? with
  | some cell =>
    rcases withText_of_room room content with ⟨whole, front, last⟩
    have reused : notebook.cells.getLast?.filter
        (fun cell => cell.kind == .code && cell.isBlank) = some cell := room
    have foremost := foremost_of_distinct identified.distinct (cells_of_room room).1
    have set := foremost.setContent content
    rw [whole, front, last]
    refine ⟨?_, ⟨rfl, foremost.first⟩, ?_⟩
    · simp only [Prompt.place, reused, set]
    · rw [← set]
      exact identified.supplied (edit_supplied notebook (.setContent cell.id content))
  | none =>
    rcases withText_of_no_room room content with ⟨whole, front, last⟩
    have unused : notebook.cells.getLast?.filter
        (fun cell => cell.kind == .code && cell.isBlank) = none := room
    have foremost : (notebook.add .code none).1.Foremost notebook.cells
        (.new (freshId notebook.nextId) .code "") [] :=
      ⟨rfl, identified.fresh _ (Nat.le_refl _)⟩
    have set : ((notebook.add .code none).1.setContent (freshId notebook.nextId) content).1 =
        { notebook with
          cells := notebook.cells ++ [.new (freshId notebook.nextId) .code content]
          nextId := notebook.nextId + 1 } := foremost.setContent content
    rw [whole, front, last]
    refine ⟨?_, ⟨rfl, foremost.first⟩, ?_⟩
    · simp only [Prompt.place, unused]
      exact Prod.ext set rfl
    · rw [← set]
      have added := identified.supplied (edit_supplied notebook (.add .code none))
      exact added.supplied (edit_supplied _ (.setContent (freshId notebook.nextId) content))

theorem isRunnable_roomFor (notebook : Notebook)
    (readable : (Text.trim content).isEmpty = false) :
    (notebook.roomFor content).isRunnable = true := by
  rw [Cell.isRunnable, Cell.isBlank, roomFor_kind, roomFor_content, readable]
  rfl

/-- The cells that stay as they are when texts are added. -/
def untouched : List String → Notebook → List Cell
  | [], notebook => notebook.cells
  | _ :: _, notebook => notebook.staying

/-- The cells for texts that are added. -/
def opened : List String → Notebook → List Cell
  | [], _ => []
  | first :: rest, notebook => notebook.roomFor first :: newCells notebook.supplyAfter rest

theorem newCells_texts (firstId : Nat) (texts : List String) :
    ((newCells firstId texts).map fun cell => (cell.kind, cell.content)) =
      texts.map fun text => (.code, text) := by
  induction texts generalizing firstId with
  | nil => rfl
  | cons text rest inductionHypothesis => exact congrArg _ (inductionHypothesis (firstId + 1))

/-- Each text has one cell of code. -/
theorem opened_texts (texts : List String) (notebook : Notebook) :
    ((notebook.opened texts).map fun cell => (cell.kind, cell.content)) =
      texts.map fun text => (.code, text) := by
  cases texts with
  | nil => rfl
  | cons first rest =>
    rw [opened, List.map_cons, roomFor_kind, roomFor_content, newCells_texts]
    rfl

/-- The cells for texts that are not blank can be run. -/
theorem isRunnable_of_mem_opened {texts : List String} (notebook : Notebook)
    (readable : ∀ text ∈ texts, (Text.trim text).isEmpty = false) :
    ∀ cell ∈ notebook.opened texts, cell.isRunnable = true := by
  intro cell member
  have among : (cell.kind, cell.content) ∈
      (notebook.opened texts).map fun cell => (cell.kind, cell.content) :=
    List.mem_map_of_mem member
  rw [opened_texts] at among
  rcases List.mem_map.1 among with ⟨text, given, same⟩
  rcases Prod.mk.injEq .. ▸ same with ⟨kind, content⟩
  rw [Cell.isRunnable, Cell.isBlank, ← kind, ← content, readable text given]
  rfl

/-- Where there is no room, all texts get new cells. -/
theorem opened_of_no_room (none : notebook.room? = none) (texts : List String) :
    notebook.untouched texts = notebook.cells ∧
      notebook.opened texts = newCells notebook.nextId texts := by
  cases texts with
  | nil => exact ⟨rfl, rfl⟩
  | cons first rest =>
    simp only [untouched, opened, staying, roomFor, supplyAfter, none, newCells, and_self]

end Notebook

/-- What is kept of a text in paragraphs: the lines of each, joined by line feeds. -/
def Text.blockTexts (lines : List String) : List String :=
  (Text.paragraphs lines).map fun block => "\n".intercalate block

namespace Prompt

open Work (Service Runner follow follow_bind)

variable {σ φ : Type} {serve : Service σ} {errands : Runner φ} {services : σ} {files : φ}
variable {app after : App} {content : String} {texts : List String}

/-- A text was put at the end of the notebook and run there. -/
structure Added (serve : Service σ) (services : σ) (app : App) (content : String) (after : App) :
    Prop where
  rests : after.AtRest
  identified : after.notebook.Identified
  notebook : after.notebook =
    { cells := app.notebook.staying ++
        [(app.notebook.roomFor content).after app.notebook.executionCount
          (upshot serve services content).2]
      executionCount := countAfter app.notebook.executionCount (upshot serve services content).2
      nextId := app.notebook.supplyAfter }
  calls : after.calls = app.calls ++ (route content).call?.toList

/-- A run in the place for a text adds the text. -/
theorem Added.of_ran {placed : App} {ran : (σ × φ) × App × RunOutcome}
    (notebook : placed.notebook = app.notebook.withText content) (calls : placed.calls = app.calls)
    (identified : (app.notebook.withText content).Identified)
    (runs : App.RanAt serve services files placed app.notebook.staying
      (app.notebook.roomFor content) [] ran) :
    ran.1 = ((upshot serve services content).1, files) ∧
      Added serve services app content ran.2.1 := by
  have text := app.notebook.roomFor_content content
  have left := runs.notebook
  rw [notebook, text] at left
  refine ⟨text ▸ runs.world, runs.rests, ?_, left, ?_⟩
  · rw [left]
    apply identified.of_ids
    · simp [Notebook.ids, Notebook.withText, Cell.after_id]
    · rfl
  · rw [runs.calls, calls, text]

/-- A block that is submitted for a new cell is added. -/
theorem follow_submit {state : State} (target : state.target = .newCell) (rests : state.app.AtRest)
    (identified : state.app.notebook.Identified) (solid : Text.Solid state.block)
    (filled : state.block ≠ []) (services : σ) (files : φ) :
    let content := "\n".intercalate state.block
    ∃ after shown, follow serve errands services files (submit state) =
        (((upshot serve services content).1, files), more (start after) shown) ∧
      Added serve services state.app content after := by
  intro content
  rcases Notebook.place_withText identified content with ⟨placed, foremost, distinct⟩
  have notebook : (state.app.change (place content)).1.notebook =
      state.app.notebook.withText content := congrArg Prod.fst placed
  have id : (state.app.change (place content)).2 = (state.app.notebook.roomFor content).id :=
    congrArg Prod.snd placed
  have readable : (state.app.notebook.roomFor content).isBlank = false := by
    rw [Cell.isBlank, Notebook.roomFor_content]
    exact Text.isEmpty_trim_intercalate solid filled
  rw [← notebook] at foremost
  let ran := follow serve errands services files
    ((state.app.change (place content)).1.run (state.app.notebook.roomFor content).id)
  have runs : App.RanAt serve services files (state.app.change (place content)).1 _ _ _ ran :=
    App.run_foremost foremost (rests.change _) readable serve errands services files
  rcases Added.of_ran notebook rfl distinct runs with ⟨world, added⟩
  refine ⟨ran.2.1, shownOutcome ran.2.2, ?_, added⟩
  rw [submit, target]
  dsimp only
  rw [follow_bind, id]
  exact Prod.ext world rfl

/-- Texts were added one after another, and the prompt has ended. -/
structure Gathered (serve : Service σ) (services : σ) (files : φ) (app : App)
    (texts : List String) (result : (σ × φ) × Transcript) : Prop where
  failed : result.2.failed = none
  world : result.1 = ((runThrough serve services app.notebook.executionCount
    (app.notebook.opened texts)).1.1, files)
  cells : result.2.app.notebook.cells = app.notebook.untouched texts ++
    (runThrough serve services app.notebook.executionCount (app.notebook.opened texts)).2
  executionCount : result.2.app.notebook.executionCount =
    (runThrough serve services app.notebook.executionCount (app.notebook.opened texts)).1.2
  calls : result.2.app.calls =
    app.calls ++ texts.flatMap fun text => (route text).call?.toList

/-- A prompt that ends where it is has added nothing. -/
theorem Gathered.nil (shown : String) :
    Gathered serve services files app [] ((services, files), ⟨app, shown, none⟩) where
  failed := rfl
  world := rfl
  cells := (List.append_nil _).symm
  executionCount := rfl
  calls := (List.append_nil _).symm

/-- A text that is not blank leaves no room behind it. -/
theorem Added.no_room (added : Added serve services app content after)
    (readable : (Text.trim content).isEmpty = false) : after.notebook.room? = none := by
  rw [added.notebook]
  apply Notebook.room?_of_readable
  rw [Cell.isBlank, Cell.after_content, Notebook.roomFor_content]
  exact readable

/-- What was added before the rest. -/
theorem Gathered.cons {result : (σ × φ) × Transcript}
    (added : Added serve services app content after)
    (readable : (Text.trim content).isEmpty = false)
    (rest : Gathered serve (upshot serve services content).1 files after texts result) :
    Gathered serve services files app (content :: texts) result := by
  rcases Notebook.opened_of_no_room (added.no_room readable) texts with ⟨untouched, opened⟩
  have cells := rest.cells
  have world := rest.world
  have executionCount := rest.executionCount
  rw [opened, added.notebook] at world executionCount
  rw [untouched, opened, added.notebook, List.append_assoc, List.singleton_append] at cells
  dsimp only at cells world executionCount
  have runs := runThrough_of_runnable serve services app.notebook.executionCount
    (app.notebook.isRunnable_roomFor readable)
    (Notebook.newCells app.notebook.supplyAfter texts)
  rw [Notebook.roomFor_content] at runs
  constructor
  · exact rest.failed
  · rw [Notebook.opened, runs]
    exact world
  · rw [Notebook.opened, Notebook.untouched, runs]
    exact cells
  · rw [Notebook.opened, runs]
    exact executionCount
  · rw [rest.calls, added.calls, List.append_assoc]
    rfl

/-- No paragraph of the lines begins with a command. -/
def Plain (lines : List String) : Prop :=
  ∀ block ∈ Text.paragraphs lines, ∀ first ∈ block.head?, isCommandLine first = false

/-- A command is no blank line. -/
theorem isBlankLine_of_isCommandLine {line : String} (command : isCommandLine line = true) :
    Text.isBlankLine line = false := by
  rw [Bool.eq_false_iff]
  intro blank
  have nothing : Text.trimStartChars line.toList = [] :=
    List.dropWhile_eq_nil_iff.2 (Text.isEmpty_trim_iff.1 blank)
  rw [isCommandLine, nothing] at command
  cases command

/-- Where no block is open, no command comes. -/
theorem Plain.head {line : String} {rest : List String} (plain : Plain (line :: rest)) :
    isCommandLine line = false := by
  rw [Bool.eq_false_iff]
  intro command
  have solid : Text.Solid [line] := by
    intro other member
    exact List.mem_singleton.1 member ▸ isBlankLine_of_isCommandLine command
  rcases Text.exists_paragraph solid (List.cons_ne_nil line []) rest with ⟨more, member⟩
  exact Bool.eq_false_iff.1 (plain _ member line rfl) command

section Lines

variable {state : State} {line : String}

theorem take_of_skipped (closed : state.block = []) (blank : Text.isBlankLine line = true) :
    take state line = .done (more state "") := by
  have plain : isCommandLine line = false := by
    rw [Bool.eq_false_iff]
    intro command
    exact Bool.eq_false_iff.1 (isBlankLine_of_isCommandLine command) blank
  have nothing : (Text.trim line).isEmpty = true := blank
  simp only [take, closed, plain, nothing, List.isEmpty_nil, Bool.and_false, Bool.false_eq_true,
    if_false, if_true]

theorem take_of_closed (isOpen : state.block ≠ []) (blank : Text.isBlankLine line = true) :
    take state line = submit state := by
  have block : state.block.isEmpty = false := List.isEmpty_eq_false_iff.2 isOpen
  have nothing : (Text.trim line).isEmpty = true := blank
  simp only [take, block, nothing, Bool.false_and, Bool.false_eq_true, if_false, if_true]

theorem take_of_filled (filled : Text.isBlankLine line = false)
    (plain : state.block = [] → isCommandLine line = false) :
    take state line = .done (more { state with block := state.block ++ [line] } "") := by
  have something : (Text.trim line).isEmpty = false := filled
  have gathers : (state.block.isEmpty && isCommandLine line) = false := by
    cases block : state.block.isEmpty with
    | true => rw [plain (List.isEmpty_iff.1 block), Bool.and_false]
    | false => rfl
  simp only [take, gathers, something, Bool.false_eq_true, if_false]

end Lines

/-- What follows a blank line is plain, too. -/
theorem Plain.rest {block rest : List String} {line : String}
    (plain : Plain (block ++ line :: rest)) (solid : Text.Solid block)
    (blank : Text.isBlankLine line = true) : Plain rest := by
  intro run member
  apply plain run
  rw [Text.paragraphs_closed solid blank]
  split
  · exact member
  · exact List.mem_cons_of_mem _ member

/-- The texts of the open block and the lines to come are added. -/
theorem follow_run_blocks (errands : Runner φ) (state : State) {lines : List String}
    (target : state.target = .newCell) (rests : state.app.AtRest)
    (identified : state.app.notebook.Identified) (solid : Text.Solid state.block)
    (plain : Plain (state.block ++ lines)) (services : σ) (files : φ) (shown : String) :
    Gathered serve services files state.app (Text.blockTexts (state.block ++ lines))
      (follow serve errands services files (run shown state (lines.map .ok))) := by
  -- The open block and the lines to come are one text: a line that is not blank goes from the one
  -- to the other, and a blank one cuts the first paragraph off.
  induction lines generalizing state services shown with
  | nil =>
    rw [List.map_nil, List.append_nil, Text.blockTexts, Text.paragraphs_open solid, run,
      follow_bind]
    by_cases closed : state.block = []
    · rw [if_pos closed, finish, if_pos (List.isEmpty_iff.2 closed)]
      exact Gathered.nil (shown ++ "")
    · rcases follow_submit target rests identified solid closed services files with
        ⟨after, told, submitted, added⟩
      rw [if_neg closed, finish, if_neg (mt List.isEmpty_iff.1 closed), submitted,
        List.map_singleton]
      dsimp only
      exact .cons added (Text.isEmpty_trim_intercalate solid closed) (Gathered.nil (shown ++ told))
  | cons line rest inductionHypothesis =>
    rw [List.map_cons, run, follow_bind]
    cases blank : Text.isBlankLine line with
    | true =>
      have later := plain.rest solid blank
      rw [Text.blockTexts, Text.paragraphs_closed solid blank]
      by_cases closed : state.block = []
      · rw [if_pos closed, take_of_skipped closed blank]
        have whole : state.block ++ rest = rest := by
          rw [closed, List.nil_append]
        rw [← whole] at later
        have goesOn := inductionHypothesis state target rests identified solid later services
          (shown ++ "")
        rw [whole] at goesOn
        exact goesOn
      · rcases follow_submit target rests identified solid closed services files with
          ⟨after, told, submitted, added⟩
        rw [if_neg closed, take_of_closed closed blank, submitted, List.map_cons]
        dsimp only
        exact .cons added (Text.isEmpty_trim_intercalate solid closed)
          (inductionHypothesis (start after) rfl added.rests added.identified
            Text.solid_nil later _ (shown ++ told))
    | false =>
      have longer : state.block ++ line :: rest = state.block ++ [line] ++ rest := by
        rw [List.append_assoc, List.singleton_append]
      have unread : state.block = [] → isCommandLine line = false := by
        intro closed
        rw [closed] at plain
        exact plain.head
      rw [take_of_filled blank unread, longer]
      rw [longer] at plain
      exact inductionHypothesis { state with block := state.block ++ [line] } target
        rests identified (solid.concat blank) plain services (shown ++ "")

/-- Each text became one cell of code, in order, and was executed once.  No other cell changed. -/
structure Segmented (serve : Service σ) (services : σ) (files : φ) (app : App)
    (texts : List String) (result : (σ × φ) × Transcript) (filled : List Cell) : Prop where
  gathered : Gathered serve services files app texts result
  cells : result.2.app.notebook.cells = app.notebook.untouched texts ++ filled
  ids : filled.map Cell.id = (app.notebook.opened texts).map Cell.id
  contents : (filled.map fun cell => (cell.kind, cell.content)) =
    texts.map fun text => (.code, text)
  completed : ∀ position cell, filled[position]? = some cell →
    (∃ output, cell.output = some output) ∧
      cell.executionCount = some (app.notebook.executionCount + .ofNat (position + 1)) ∧
      cell.isRunning = false
  executionCount : result.2.app.notebook.executionCount =
    app.notebook.executionCount + .ofNat texts.length

/-- Where services answer, texts that were gathered are segmented. -/
theorem Gathered.segmented {result : (σ × φ) × Transcript} (alive : Alive serve)
    (readable : ∀ text ∈ texts, (Text.trim text).isEmpty = false)
    (gathered : Gathered serve services files app texts result) :
    ∃ filled, Segmented serve services files app texts result filled := by
  have runnable := app.notebook.isRunnable_of_mem_opened readable
  have contents := Notebook.opened_texts texts app.notebook
  rcases alive.runThrough runnable services app.notebook.executionCount with ⟨counted, completed⟩
  refine ⟨_, gathered, gathered.cells, ?_, ?_, completed, ?_⟩
  · exact runThrough_map Cell.after_id ..
  · rw [← contents]
    apply runThrough_map
    intro count upshot cell
    rw [Cell.after_kind, Cell.after_content]
  · have length := congrArg List.length contents
    rw [List.length_map, List.length_map] at length
    rw [gathered.executionCount, counted, length]

/-- Lines without commands are read in paragraphs.  Each paragraph becomes one cell, in order, and
is executed as soon as it is complete. -/
theorem paragraphs_become_cells (rests : app.AtRest) (identified : app.notebook.Identified)
    (alive : Alive serve) {lines : List String} (plain : Plain lines) (services : σ) (files : φ) :
    ∃ filled, Segmented serve services files app (Text.blockTexts lines)
      (follow serve errands services files (run "" (start app) (lines.map .ok))) filled := by
  have gathered : Gathered serve services files app (Text.blockTexts lines) _ :=
    follow_run_blocks errands (start app) rfl rests identified
      Text.solid_nil plain services files ""
  apply gathered.segmented alive
  intro text member
  rcases List.mem_map.1 member with ⟨block, among, rfl⟩
  rcases Text.solid_of_mem_paragraphs Text.solid_nil lines block among with ⟨solid, filled⟩
  exact Text.isEmpty_trim_intercalate solid filled

/-- Two cells, the last of which is blank. -/
def blankEnd : Notebook where
  cells := [.new "a" .code "NOP", .new "x" .code " "]
  executionCount := 3
  nextId := 0

/-- Three paragraphs, in the second line of the first of which a command stands. -/
def threeParagraphs : List String :=
  ["", "MVI A,1", ":list", "  ", "\t", "@bogus", "", "", " HLT "]

theorem paragraphs_become_cells_three :
    (App.new blankEnd).AtRest ∧ blankEnd.Identified ∧ Alive steadyServices ∧
      Plain threeParagraphs ∧
      Text.blockTexts threeParagraphs = ["MVI A,1\n:list", "@bogus", " HLT "] ∧
      ∃ filled, Segmented steadyServices 0 () (.new blankEnd) (Text.blockTexts threeParagraphs)
        (follow steadyServices emptyFiles 0 ()
          (run "" (start (.new blankEnd)) (threeParagraphs.map .ok))) filled := by
  have identified : blankEnd.Identified := Notebook.identified_of_short (by decide) (by decide)
  have plain : Plain threeParagraphs := by
    unfold Plain
    decide
  exact ⟨App.atRest_new _, identified, alive_steadyServices, plain, by decide,
    paragraphs_become_cells (App.atRest_new _) identified alive_steadyServices plain 0 ()⟩

end Prompt
end AsmNotebook
