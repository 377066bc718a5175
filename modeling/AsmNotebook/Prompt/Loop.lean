import AsmNotebook.App.Run
import AsmNotebook.Prompt.Command
import AsmNotebook.Render.Cell
import AsmNotebook.Session.Export
import AsmNotebook.Text.Utf8

namespace AsmNotebook
namespace Prompt

/-!
The prompt reads lines.  Lines that are not blank gather into a block, and the
next blank line or the end of the input submits it: it replaces the text of the
cell that was asked for, or becomes a new cell and runs.  Outside a block a line
that opens with a colon is a command.
-/

/-- Where the next block goes. -/
inductive Target
  | newCell
  | replace (cellId : String)
deriving DecidableEq, Repr

structure State where
  app : App
  target : Target
  /-- Lines of the open block. -/
  block : List String

/-- The prompt of an application. -/
def start (app : App) : State where
  app := app
  target := .newCell
  block := []

/-- What a line leads to: the prompt goes on or ends, with the text it shows. -/
structure Response where
  state : State
  shown : String
  ended : Bool

/-- The prompt goes on. -/
def more (state : State) (shown : String) : Response where
  state := state
  shown := shown
  ended := false

/-- The prompt dies with a service that it waits for: nothing more is shown or read. -/
def dead (state : State) : Response where
  state := state
  shown := ""
  ended := true

def shownOutcome : RunOutcome → String
  | .completed count output =>
    Render.line ("Out[" ++ toString count.toNat ++ "]:") ++ Render.output output
  | .skipped => Render.line "(skipped: nothing to run)"

/-- The identifier of the cell at a position. -/
def cellAt? (index : Nat) (app : App) : Option String :=
  app.notebook.cells[index]?.map Cell.id

/-- Put a text into the last cell if that is a blank code cell, and into a new one otherwise; the
result names the cell. -/
def place (content : String) (notebook : Notebook) : Notebook × String :=
  let reused := notebook.cells.getLast?.filter fun cell => cell.kind == .code && cell.isBlank
  match reused with
  | some cell => ((notebook.setContent cell.id content).1, cell.id)
  | none =>
    let (notebook, id) := notebook.add .code none
    ((notebook.setContent id content).1, id)

/-- Submit the block. -/
def submit (state : State) : Work Response :=
  let content := "\n".intercalate state.block
  match state.target with
  | .replace cellId =>
    let (app, updated) := state.app.edit (.setContent cellId content)
    .done (more (start app) (if updated then "" else Render.line "cell no longer exists"))
  | .newCell =>
    let (app, cellId) := state.app.change (place content)
    (app.run cellId).bind fun (app, outcome) =>
      .done (more (start app) (shownOutcome outcome))

/-- What is shown for a number without a cell. -/
def noCell (index : Nat) : String :=
  Render.line ("no cell " ++ toString (index + 1))

/-- Do something to the cell at a position. -/
def withCell (state : State) (index : Nat) (act : String → Work Response) : Work Response :=
  match cellAt? index state.app with
  | some cellId => act cellId
  | none => .done (more state (noCell index))

/-- Export the notebook to a file. -/
def exportTo (state : State) (path : String) : Work Response :=
  .ask (.errand .now) fun time =>
    let document := ExportDocument.ofNotebook (some ⟨time⟩) state.app.notebook
    .ask (.errand (.replaceFile path document.write)) fun written =>
      match written with
      | .ok () =>
        .done (more state (Render.line
          ("exported " ++ toString document.cells.length ++ " cells to " ++ path)))
      | .error fault =>
        let report : Report :=
          { text := "Failed to write export to " ++ path, cause := some fault.message }
        .done (more state (Render.line ("export failed: " ++ report.oneLine)))

/-- The list of the prompt's commands. -/
def help : String :=
  "Type assembly or an @command, then an empty line to run it.\n\n" ++
    "Notebook commands:\n" ++
    "  :list                 list cells\n" ++
    "  :add [code|markdown]  append a cell and edit it\n" ++
    "  :edit N               replace the source of cell N\n" ++
    "  :run N                run cell N\n" ++
    "  :runall               run every code cell in order\n" ++
    "  :delete N             delete cell N\n" ++
    "  :clear-outputs        clear all outputs\n" ++
    "  :clear                start over with one empty cell\n" ++
    "  :state                show registers, flags and memory\n" ++
    "  :explain N            ask the assistant to explain cell N's error\n" ++
    "  :export [PATH]        export cells to JSON\n" ++
    "  :import PATH          replace cells with an export file\n" ++
    "  :help                 this text\n" ++
    "  :quit                 save and exit\n"

/-- Carry out a command. -/
def execute (state : State) : Command → Work Response
  | .list => .done (more state (Render.line (Render.cellTable state.app.notebook.cells)))
  | .add kind =>
    let (app, cellId) := state.app.edit (.add kind none)
    .done (more { state with app := app, target := .replace cellId }
      (Render.line ("added " ++ kind.name ++ " cell; enter its source, end with an empty line")))
  | .edit index =>
    withCell state index fun cellId =>
      .done (more { state with target := .replace cellId }
        (Render.line ("editing cell " ++ toString (index + 1) ++ "; end with an empty line")))
  | .run index =>
    withCell state index fun cellId =>
      (state.app.run cellId).bind fun (app, outcome) =>
        .done (more { state with app := app } (shownOutcome outcome))
  | .runAll =>
    state.app.runAll.bind fun (app, outcomes) =>
      let shown :=
        if outcomes.isEmpty then Render.line "nothing to run"
        else String.join (outcomes.map fun entry => shownOutcome entry.2)
      .done (more { state with app := app } shown)
  | .delete index =>
    withCell state index fun cellId =>
      .done (more { state with app := (state.app.edit (.delete cellId)).1 }
        (Render.line ("deleted cell " ++ toString (index + 1))))
  | .clearOutputs =>
    .done (more { state with app := (state.app.edit .clearOutputs).1 }
      (Render.line "outputs cleared"))
  | .clear =>
    .done (more { state with app := (state.app.edit .clear).1 } (Render.line "notebook cleared"))
  | .state => .done (more state (Render.processor state.app.processor))
  | .explain index =>
    withCell state index fun cellId =>
      (state.app.explain cellId).bind fun (app, explanation) =>
        let state := { state with app := app }
        match explanation with
        | .ok text => .done (more state (Render.line (Text.trimEnd text)))
        | .error .died => .done (dead state)
        | .error fault => .done (more state (Render.line ("explain failed: " ++ fault.message)))
  | .exportTo (some path) => exportTo state path
  | .exportTo none =>
    .ask (.errand .today) fun date => exportTo state (ExportDocument.defaultFileName date)
  | .importFrom path =>
    (state.app.importFile path).bind fun (app, result) =>
      let shown :=
        match result with
        | .ok count => Render.line ("imported " ++ toString count ++ " cells")
        | .error report => Render.line ("import failed: " ++ report.oneLine)
      .done (more { state with app := app } shown)
  | .help => .done (more state help)
  | .quit => .done { state := state, shown := "", ended := true }

/-- Whether a line is a command where no block is open. -/
def isCommandLine (line : String) : Bool :=
  (Text.trimStartChars line.toList).head? == some ':'

/-- Take a line. -/
def take (state : State) (line : String) : Work Response :=
  if state.block.isEmpty && isCommandLine line then
    match Command.parse line with
    | .ok command => execute state command
    | .error message => .done (more state (Render.line message))
  else if (Text.trim line).isEmpty then
    if state.block.isEmpty then .done (more state "") else submit state
  else
    .done (more { state with block := state.block ++ [line] } "")

/-- The input ends: an open block is submitted. -/
def finish (state : State) : Work Response :=
  if state.block.isEmpty then .done (more state "") else submit state

/-- The end of a prompt: the application, the text shown, and why the input could not be read on. -/
structure Transcript where
  app : App
  shown : String
  failed : Option String

/-- Run the prompt over lines, with the text shown so far. -/
def run (shown : String) (state : State) :
    List (Except Text.InvalidBytes String) → Work Transcript
  | [] =>
    (finish state).bind fun response =>
      .done { app := response.state.app, shown := shown ++ response.shown, failed := none }
  | .error invalid :: _ =>
    .done { app := state.app, shown := shown, failed := some invalid.message }
  | .ok line :: rest =>
    (take state line).bind fun response =>
      if response.ended then
        .done { app := response.state.app, shown := shown ++ response.shown, failed := none }
      else
        run (shown ++ response.shown) response.state rest

end Prompt
end AsmNotebook
