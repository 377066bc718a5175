import AsmNotebook.App.Basic

namespace AsmNotebook
namespace App

/-!
The loop that drains the queue.  It takes out one run after another; a run whose
text needs a call waits for the answer, and all other runs end at once.  The
loop goes when it finds the queue empty, or dies with the call it waits for; in
both cases the queue is idle and empty afterwards.
-/

/-- Take out the next run.  The loop goes where it finds none. -/
def take (app : App) : App × Option QueueEntry :=
  let (queue, next) := app.queue.dequeue
  let shown := app.showQueue queue
  match next with
  | none => ({ shown with phase := .absent }, none)
  | some entry => (shown, some entry)

theorem take_some {app taken : App} {entry : QueueEntry} (found : app.take = (taken, some entry)) :
    ∃ rest, app.queue.executing = none ∧ app.queue.pending = entry :: rest ∧
      taken = app.showQueue
        { app.queue with pending := rest, executing := some entry.cellId } := by
  unfold take ExecutionQueue.dequeue at found
  cases executing : app.queue.executing with
  | some cellId => simp [executing] at found
  | none =>
    cases pending : app.queue.pending with
    | nil => simp [executing, pending] at found
    | cons first rest =>
      simp only [executing, pending, Option.isSome_none, Bool.false_eq_true, if_false,
        Prod.mk.injEq, Option.some.injEq] at found
      rcases found with ⟨rfl, rfl⟩
      exact ⟨rest, rfl, rfl, rfl⟩

/-- A loop that finds nothing to take out is gone.  The queue is idle afterwards, unless a run was
under way. -/
theorem take_none {app gone : App} (found : app.take = (gone, none)) :
    ∃ queue, gone = { app.showQueue queue with phase := .absent } ∧
      (app.queue.executing ≠ none ∧ queue = app.queue ∨
        app.queue.executing = none ∧ app.queue.pending = [] ∧ queue = .empty) := by
  unfold take ExecutionQueue.dequeue at found
  cases executing : app.queue.executing with
  | some cellId =>
    simp only [executing, Option.isSome_some, if_true, Prod.mk.injEq, and_true] at found
    exact ⟨app.queue, found.symm, Or.inl ⟨nofun, rfl⟩⟩
  | none =>
    cases pending : app.queue.pending with
    | nil =>
      simp only [executing, pending, Option.isSome_none, Bool.false_eq_true, if_false,
        Prod.mk.injEq, and_true] at found
      exact ⟨.empty, found.symm, Or.inr ⟨rfl, rfl, rfl⟩⟩
    | cons first rest => simp [executing, pending] at found

/-- Begin the run of an entry: the result is the text to run, unless the cell is blank or gone. -/
def begin (entry : QueueEntry) (app : App) : App × Option String :=
  match app.notebook.begin? entry.cellId with
  | none => (app, none)
  | some (notebook, source) =>
    ({ app with notebook := notebook }.announce (.started entry.cellId), some source)

theorem begin_none {app same : App} {entry : QueueEntry} (found : app.begin entry = (same, none)) :
    same = app ∧ app.notebook.begin? entry.cellId = none := by
  unfold begin at found
  cases begun : app.notebook.begin? entry.cellId with
  | none =>
    simp only [begun, Prod.mk.injEq, and_true] at found
    exact ⟨found.symm, rfl⟩
  | some pair => simp [begun] at found

theorem begin_some {app begun : App} {entry : QueueEntry} {source : String}
    (found : app.begin entry = (begun, some source)) :
    ∃ notebook, app.notebook.begin? entry.cellId = some (notebook, source) ∧
      begun = { app with notebook := notebook }.announce (.started entry.cellId) := by
  unfold begin at found
  cases pair : app.notebook.begin? entry.cellId with
  | none => simp [pair] at found
  | some pair' =>
    simp only [pair, Prod.mk.injEq, Option.some.injEq] at found
    rcases found with ⟨rfl, rfl⟩
    exact ⟨pair'.1, rfl, rfl⟩

/-- Make the call of a run and wait for its answer. -/
def place (entry : QueueEntry) (call : ServiceCall) (app : App) : App :=
  let (called, number) := app.recordCall call
  { called with phase := .waiting entry number call }

/-- Store what the text of a cell led to, in the notebook and then in the processor; the result is
how the run ended. -/
def store (cellId : String) (dispatch : Dispatch) (app : App) : App × RunOutcome :=
  let (notebook, count) := app.notebook.complete cellId dispatch.output
  let stored := { app with notebook := notebook }
  let affected :=
    match dispatch.effect with
    | some effect => stored.actOnProcessor effect.action
    | none => stored
  (affected.announce (.completed cellId count dispatch.output), .completed count dispatch.output)

@[simp] theorem store_queue (cellId : String) (dispatch : Dispatch) (app : App) :
    (app.store cellId dispatch).1.queue = app.queue := by
  unfold store
  cases dispatch.effect <;> rfl

theorem store_notebook (cellId : String) (dispatch : Dispatch) (app : App) :
    (app.store cellId dispatch).1.notebook =
      (app.notebook.complete cellId dispatch.output).1 := by
  unfold store
  cases dispatch.effect <;> rfl

theorem store_processor (cellId : String) (dispatch : Dispatch) (app : App) :
    (app.store cellId dispatch).1.processor =
      match dispatch.effect with
      | some effect => app.processor.act effect.action
      | none => app.processor := by
  unfold store
  cases dispatch.effect <;> rfl

theorem store_outcome (cellId : String) (dispatch : Dispatch) (app : App) :
    (app.store cellId dispatch).2 =
      .completed (app.notebook.executionCount + 1) dispatch.output :=
  rfl

/-- A change of the processor is announced before the end of the run. -/
theorem store_events (cellId : String) (dispatch : Dispatch) (app : App) :
    (app.store cellId dispatch).1.events =
      app.events ++ ((dispatch.effect.map fun _ => Event.processorChanged).toList ++
        [.completed cellId (app.notebook.executionCount + 1) dispatch.output]) := by
  unfold store
  cases dispatch.effect with
  | none => rfl
  | some effect => exact List.append_assoc ..

/-- Tell the queue that the run of a cell is over. -/
def release (cellId : String) (app : App) : App :=
  { app with queue := app.queue.complete cellId, phase := .ready }

/-- Take an entry off the queue with the end of its run. -/
def finish (entry : QueueEntry) (outcome : RunOutcome) (app : App) : App :=
  (app.release entry.cellId).settle entry.ticket outcome

/-- End the run of an entry with what its text led to. -/
def complete (entry : QueueEntry) (dispatch : Dispatch) (app : App) : App :=
  let (stored, outcome) := app.store entry.cellId dispatch
  stored.finish entry outcome

/-- Take out runs until one waits for an answer or the queue is empty. -/
def advanceFrom : Nat → App → App
  | 0, app => app
  | fuel + 1, app =>
    match app.take with
    | (gone, none) => gone
    | (taken, some entry) =>
      match taken.begin entry with
      | (begun, none) => advanceFrom fuel (begun.finish entry .skipped)
      | (begun, some source) =>
        match route source with
        | .done output => advanceFrom fuel (begun.complete entry (.plain output))
        | .call call => begun.place entry call

/-- Take out runs until one waits for an answer or the queue is empty; every step takes out one. -/
def advance (app : App) : App :=
  advanceFrom (app.queue.pending.length + 1) app

/-- Give the queue up: the result is the cell under way and the runs that wait. -/
def abandon (app : App) : App × Option String × List QueueEntry :=
  let (queue, executing, pending) := app.queue.abandon
  ({ app with phase := .absent }.showQueue queue, executing, pending)

theorem abandon_eq {app idle : App} {cell? : Option String} {others : List QueueEntry}
    (found : app.abandon = (idle, cell?, others)) :
    idle = { app with phase := .absent }.showQueue .empty ∧ app.queue.executing = cell? ∧
      app.queue.pending = others := by
  cases found
  exact ⟨rfl, rfl, rfl⟩

/-- A cell whose run died runs no more. -/
def recover (cellId : String) (app : App) : App :=
  (app.edit (.update cellId { CellUpdate.none with isRunning := some false })).1

/-- Skip runs that will not begin. -/
def cancel (entries : List QueueEntry) (app : App) : App :=
  entries.foldl (fun app entry => app.settle entry.ticket .skipped) app

/-- The loop dies during the run of an entry.  The run is skipped first; then the queue is given
up, the cell runs no more, and all waiting runs are skipped. -/
def crash (entry : QueueEntry) (app : App) : App :=
  match (app.settle entry.ticket .skipped).abandon with
  | (idle, some cellId, pending) => (idle.recover cellId).cancel pending
  | (idle, none, pending) => idle.cancel pending

/-- What happens to a call: other tasks take some steps, then the answer comes, or the service dies
and there is none. -/
structure Attendance (call : ServiceCall) where
  /-- Steps before each turn that the loop takes before the last steps.  It takes none while it
  waits for the answer to a call of its own. -/
  turns : List (List Action) := []
  meanwhile : List Action
  answer : Option call.Answer

namespace Attendance

variable {call : ServiceCall}

/-- Nothing else happens before the answer. -/
def undisturbed (answer : Option call.Answer) : Attendance call where
  meanwhile := []
  answer := answer

/-- All steps of other tasks. -/
def actions (attendance : Attendance call) : List Action :=
  attendance.turns.flatten ++ attendance.meanwhile

end Attendance

/-- A call that waits for its answer, with the application as it stands. -/
structure OpenCall where
  app : App
  number : Nat
  call : ServiceCall

/-- Go on after a call of the run of an entry. -/
def resume (entry : QueueEntry) (call : ServiceCall) (attendance : Attendance call) (app : App) :
    App :=
  let attended := app.attend attendance.meanwhile
  match attendance.answer with
  | none => attended.crash entry
  | some answer => (attended.complete entry (conclude call answer)).advance

end App
end AsmNotebook
