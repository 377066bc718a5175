import AsmNotebook.World

namespace AsmNotebook
namespace App

/-!
Work that waits.  Everything happens on one thread: while a task waits, the
loop that drains the queue takes its turns, each up to the next call, and the
task goes on as soon as what it waits for is there.
-/

/-- One turn of the loop: it starts, or goes on after the call it waits for. -/
def turn (app : App) : Work App :=
  match app.phase with
  | .absent => .done app
  | .ready => .done app.advance
  | .waiting entry number call =>
    .ask (.attend ⟨app, number, call⟩) fun attendance => .done (app.resume entry call attendance)

/-- Let the loop take turns, at most `fuel` of them, until something is there. -/
def await {α : Type} (there? : App → Option α) : Nat → App → Work (App × Option α)
  | 0, app => .done (app, there? app)
  | fuel + 1, app =>
    match there? app with
    | some value => .done (app, some value)
    | none => app.turn.bind fun app => await there? fuel app

/-- Turns after which every run that waits now has ended. -/
def turnsNeeded (app : App) : Nat :=
  app.queue.pending.length + 2

/-- Wait for the end of a run. -/
def awaitOutcome (ticket : Nat) (app : App) : Work (App × RunOutcome) :=
  (await (outcome? ticket) app.turnsNeeded app).bind fun (app, outcome) =>
    .done (app, outcome.getD .skipped)

/-- Whether a cell is there and not blank. -/
def canRun (cellId : String) (app : App) : Bool :=
  match app.notebook.find? cellId with
  | some cell => !cell.isBlank
  | none => false

/-- Whether a cell can be run does not depend on what is queued. -/
theorem canRun_enqueue (cellId other : String) (app : App) :
    (app.enqueue other).1.canRun cellId = app.canRun cellId := by
  rw [enqueue_eq]
  rfl

/-- A cell can be run exactly if its run would begin. -/
theorem canRun_eq (cellId : String) (app : App) :
    app.canRun cellId = (app.notebook.begin? cellId).isSome := by
  rw [Notebook.isSome_begin?]
  unfold App.canRun
  cases app.notebook.find? cellId with
  | none => rfl
  | some cell => rfl

/-- Queue a run of a cell, unless it is blank or missing; the result is the ticket. -/
def request (cellId : String) (app : App) : App × Option Nat :=
  if app.canRun cellId then
    let (app, ticket) := app.enqueue cellId
    (app, some ticket)
  else
    (app, none)

theorem request_of_canRun {cellId : String} {app : App} (runnable : app.canRun cellId = true) :
    app.request cellId = ((app.enqueue cellId).1, some app.nextTicket) :=
  if_pos runnable

theorem request_of_not_canRun {cellId : String} {app : App}
    (unrunnable : app.canRun cellId = false) : app.request cellId = (app, none) :=
  if_neg (Bool.eq_false_iff.1 unrunnable)

/-- Run a cell and wait for the end. -/
def run (cellId : String) (app : App) : Work (App × RunOutcome) :=
  match app.request cellId with
  | (app, none) => .done (app, .skipped)
  | (app, some ticket) => app.awaitOutcome ticket

/-- Queue runs of several cells. -/
def requestAll : List String → App → App × List (Option Nat)
  | [], app => (app, [])
  | cellId :: rest, app =>
    let (app, ticket) := app.request cellId
    let (app, tickets) := requestAll rest app
    (app, ticket :: tickets)

theorem requestAll_cons (cellId : String) (rest : List String) (app : App) :
    app.requestAll (cellId :: rest) =
      (((app.request cellId).1.requestAll rest).1,
        (app.request cellId).2 :: ((app.request cellId).1.requestAll rest).2) :=
  rfl

/-- How a run that was asked for ended; one that was not queued is skipped. -/
def requested? (app : App) (ticket : Option Nat) : Option RunOutcome :=
  match ticket with
  | none => some .skipped
  | some ticket => app.outcome? ticket

/-- Run several cells at once and wait for all of them. -/
def runTogether (cellIds : List String) (app : App) : Work (App × List RunOutcome) :=
  let (app, tickets) := app.requestAll cellIds
  (await (fun app => tickets.mapM app.requested?) app.turnsNeeded app).bind fun (app, outcomes) =>
    .done (app, outcomes.getD (tickets.map fun _ => .skipped))

/-- Run cells one after another. -/
def runEach : List String → App → Work (App × List (String × RunOutcome))
  | [], app => .done (app, [])
  | cellId :: rest, app =>
    (app.run cellId).bind fun (app, outcome) =>
      (runEach rest app).bind fun (app, outcomes) => .done (app, (cellId, outcome) :: outcomes)

/-- Run every cell that can be run, in order. -/
def runAll (app : App) : Work (App × List (String × RunOutcome)) :=
  app.runEach ((app.notebook.cells.filter Cell.isRunnable).map Cell.id)

/-- Wait until the queue is idle, for at most `fuel` turns. -/
def awaitIdle (fuel : Nat) (app : App) : Work App :=
  (await (fun app => if app.queue.draining then none else some ()) fuel app).bind fun (app, _) =>
    .done app

/-- Why there is no explanation. -/
inductive ExplanationFault
  | noFailure
  | assistant (fault : AssistantFault)
  /-- The assistant died, and the task that asked it died as well. -/
  | died

namespace ExplanationFault

/-- What is said of a fault.  A task that died says nothing. -/
def message : ExplanationFault → String
  | noFailure => "cell has no error output to explain"
  | assistant fault => fault.message
  | died => ""

end ExplanationFault

/-- The text of a cell and its failure. -/
def failed? (cellId : String) (app : App) : Option (String × Failure) := do
  let cell ← app.notebook.find? cellId
  let output ← cell.output
  let failure ← output.failure?
  pure (cell.content, failure)

/-- Let the loop take turns, each after some steps of other tasks. -/
def takeTurns : List (List Action) → App → Work App
  | [], app => .done app
  | actions :: rest, app => (app.attend actions).turn.bind (takeTurns rest)

/-- Ask the assistant to explain the failure of a cell, and attach what it says.  An assistant that
answers at once leaves the loop no turn. -/
def explain (cellId : String) (app : App) : Work (App × Except ExplanationFault String) :=
  match app.failed? cellId with
  | none => .done (app, .error .noFailure)
  | some (code, failure) =>
    let question := explanationPrompt code failure
    let (app, number) := app.recordCall (.ask question)
    .ask (.attend ⟨app, number, .ask question⟩) fun attendance =>
      (app.takeTurns attendance.turns).bind fun app =>
        let app := app.attend attendance.meanwhile
        match attendance.answer with
        | none => .done (app, .error .died)
        | some (.error fault) => .done (app, .error (.assistant fault))
        | some (.ok text) => .done ((app.edit (.attach cellId text)).1, .ok text)

/-- Import the cells of a file. -/
def importFile (path : String) (app : App) : Work (App × Except Report Nat) :=
  .ask (.errand (.fileText path)) fun contents =>
    match contents with
    | .error fault =>
      .done (app.announce .cellsChanged,
        .error { text := "Failed to read " ++ path, cause := some fault.message })
    | .ok text =>
      match app.edit (.importText text) with
      | (app, .ok count) => .done (app, .ok count)
      | (app, .error fault) => .done (app, .error { text := fault.message, cause := none })

end App
end AsmNotebook
