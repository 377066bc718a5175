import AsmNotebook.Prompt.Loop
import AsmNotebook.Services
import AsmNotebook.Session.Document

namespace AsmNotebook
namespace Launch

/-!
A run of the program from start to end, in one of its three modes.  A run leaves
the settings for its user to edit, takes its options over them, and asks the
world for nothing but files, the time and exchanges with servers.
-/

/-- Where the user's files are. -/
structure Places where
  config : String
  data : String
deriving DecidableEq, Repr

namespace Places

/-- The directories that the environment names, or their usual places in the home directory. -/
def ofEnvironment (home config data : Option String) : Places :=
  let absolute (path : Option String) : Option String := path.filter (Text.opensWith "/")
  let inHome (path : String) : String :=
    match home with
    | some home => home ++ "/" ++ path
    | none => "."
  { config := (absolute config).getD (inHome ".config")
    data := (absolute data).getD (inHome ".local/share") }

def settings (places : Places) : String :=
  places.config ++ "/asm-studio/settings.json"

/-- The document of the session if no other is named. -/
def session (places : Places) : String :=
  places.data ++ "/asm-studio/sessions/default-notebook.json"

end Places

inductive Mode
  /-- Read blocks and commands. -/
  | prompt
  /-- Run every cell of an export. -/
  | run (path : String) (json : Bool)
  /-- Ask whether the simulator is there. -/
  | health
deriving DecidableEq, Repr

/-- What a run asks. -/
inductive Query
  | exchange (request : Web.Request)
  | errand (errand : Errand)

abbrev Query.Reply : Query → Type
  | .exchange _ => Web.Reply
  | .errand e => e.Reply

/-- Work of a run. -/
abbrev Errands (α : Type) : Type :=
  Dialogue Query Query.Reply α

/-- What a run has shown, and why it failed. -/
structure Ending where
  shown : String
  failure : Option Report
deriving DecidableEq, Repr

namespace Ending

/-- A run that ends before it shows anything. -/
def failed (text : String) : Ending where
  shown := ""
  failure := some { text := text, cause := none }

end Ending

/-- The settings, with the options over them.  Where there are none, the usual ones are written. -/
def settings (places : Places) (options : LaunchOptions) : Errands Settings := do
  let there ← .ask (.errand (.fileExists places.settings)) .done
  if !there then
    let _ ← .ask (.errand (.saveFile places.settings Settings.initial.save)) .done
  let text ← .ask (.errand (.fileText places.settings)) .done
  pure (options.apply (Settings.load text.toOption))

def client (settings : Settings) : Except Simulator.BaseFault Simulator.Client :=
  Simulator.Client.ofBase settings.backendUrl settings.timeoutMs.toNat

def services (settings : Settings) : Except Simulator.BaseFault Services :=
  (client settings).map fun client => { simulator := client, chat := .new settings.assistant }

/-- Answer what an application asks, calls by exchanges. -/
def attend (services : Services) : (query : AsmNotebook.Query) → Errands (Services × query.Reply)
  | .errand e => .ask (.errand e) fun reply => .done (services, reply)
  | .attend waiting =>
    match services.plan waiting.call with
    | .answered answer => .done (services, .undisturbed (some answer))
    | .exchange request =>
      .ask (.exchange request) fun reply =>
        let (services, answer) := services.receive (request.outcome reply) waiting.call
        .done (services, .undisturbed (some answer))

/-- Do the work of an application over the web. -/
def serve {α : Type} (services : Services) (work : Work α) : Errands (Services × α) :=
  work.relay attend services

/-- Ask whether the simulator is there. -/
def probe (client : Simulator.Client) : Errands Ending :=
  .ask (.exchange client.healthRequest) fun reply =>
    if Simulator.Client.isHealthy (client.healthRequest.outcome reply) then
      .done
        { shown := Render.line ("Backend at " ++ client.base.write ++ " is healthy")
          failure := none }
    else
      .done (.failed ("Backend at " ++ client.base.write ++ " is not reachable"))

/-- Whether a run ended with a failure. -/
def isFailed : RunOutcome → Bool
  | .completed _ output => output.isFailure
  | .skipped => false

/-- The cells as a run of a file shows them. -/
def shownCells (json : Bool) (cells : List Cell) : String :=
  if json then
    Render.line (Json.array (cells.map Cell.toJson)).indented
  else
    String.join ((List.range cells.length).zip cells |>.map fun (index, cell) =>
      Render.line (Render.cell index cell))

/-- Import a file, run every code cell and show all cells.  A cell that fails fails the run. -/
def runFile (path : String) (json : Bool) (app : App) : Work Ending := do
  match ← app.importFile path with
  | (_, .error report) => pure { shown := "", failure := some report }
  | (app, .ok _) =>
    let (app, outcomes) ← app.runAll
    let failed := (outcomes.filter fun entry => isFailed entry.2).length
    let failure : Report :=
      { text := toString failed ++ " of " ++ toString outcomes.length ++ " cells failed"
        cause := none }
    pure
      { shown := shownCells json app.notebook.cells
        failure := if 0 < failed then some failure else none }

/-- The prompt over the notebook that a file keeps; new cells are identified from a number on. -/
def openSession (path : String) (firstId : Nat) : Errands Prompt.State :=
  .ask (.errand (.fileText path)) fun text =>
    .done (Prompt.start (.new (.load firstId text.toOption)))

/-- Keep the notebook in a file. -/
def closeSession (path : String) (app : App) : Errands (Option Report) := do
  let time ← .ask (.errand .now) .done
  match ← .ask (.errand (.saveFile path (app.notebook.save time))) .done with
  | .ok () => pure none
  | .error fault =>
    pure (some { text := "Failed to save session to " ++ path, cause := some fault.message })

/-- What the prompt shows first. -/
def banner (settings : Settings) : String :=
  Render.line ("8085 notebook (" ++ settings.backendUrl ++ "). Type :help for commands.")

/-- The prompt over lines.  The notebook is kept whether or not all of them could be read. -/
def converse (settings : Settings) (services : Services) (path : String) (state : Prompt.State)
    (lines : List (Except Text.InvalidBytes String)) : Errands Ending := do
  let (_, transcript) ← serve services (Prompt.run (banner settings) state lines)
  let unsaved ← closeSession path transcript.app
  let unread : Option Report := transcript.failed.map fun text => { text := text, cause := none }
  pure { shown := transcript.shown, failure := unsaved.or unread }

/-- A whole run over the lines of its input; new cells are identified from a number on. -/
def run (places : Places) (options : LaunchOptions) (mode : Mode) (firstId : Nat)
    (lines : List (Except Text.InvalidBytes String)) : Errands Ending := do
  let settings ← settings places options
  match mode with
  | .health =>
    match client settings with
    | .error fault => pure (.failed fault.message)
    | .ok client => probe client
  | .run path json =>
    match services settings with
    | .error fault => pure (.failed fault.message)
    | .ok services =>
      let (_, ending) ← serve services (runFile path json (.new (.blank firstId)))
      pure ending
  | .prompt =>
    let path := options.sessionPath.getD places.session
    let state ← openSession path firstId
    match services settings with
    | .error fault => pure (.failed fault.message)
    | .ok services => converse settings services path state lines

end Launch
end AsmNotebook
