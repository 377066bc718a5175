import AsmNotebook.Notebook.Edit
import AsmNotebook.Queue
import AsmNotebook.Router

namespace AsmNotebook

/-!
The application: a notebook, what is known of the processor, the queue of runs with
the loop that drains it, and the journal of what was announced and called.

The operations of this module do not wait.  Every change of the notebook is
announced right after it happened.
-/

/-- How a run ended. -/
inductive RunOutcome
  | completed (count : UInt32) (output : Output)
  /-- The cell was blank or gone, or the loop died before the run ended. -/
  | skipped
deriving DecidableEq

/-- Announcements. -/
inductive Event
  /-- Cells changed otherwise than by a run. -/
  | cellsChanged
  | processorChanged
  | queueChanged (state : QueueState)
  | started (cellId : String)
  | completed (cellId : String) (count : UInt32) (output : Output)
deriving DecidableEq

namespace Event

/-- Whether what is saved of the notebook may have changed. -/
def touchesDocument : Event → Bool
  | cellsChanged => true
  | started _ => true
  | completed _ _ _ => true
  | processorChanged => false
  | queueChanged _ => false

end Event

/-- Where the loop that drains the queue stands. -/
inductive LoopPhase
  /-- There is no loop. -/
  | absent
  /-- The loop is about to take out the next run. -/
  | ready
  /-- The run of an entry waits for the answer to a call, which has a number in the journal. -/
  | waiting (entry : QueueEntry) (number : Nat) (call : ServiceCall)
deriving DecidableEq

structure App where
  notebook : Notebook
  processor : Processor
  queue : ExecutionQueue
  phase : LoopPhase
  /-- Announcements so far, in order. -/
  events : List Event
  /-- Calls to the simulator and the assistant so far, in order. -/
  calls : List ServiceCall
  /-- Tickets of ended runs, in the order of their ends. -/
  outcomes : List (Nat × RunOutcome)
  nextTicket : Nat

namespace App

/-- An application with a notebook and nothing else. -/
def new (notebook : Notebook) : App where
  notebook := notebook
  processor := .powerOn
  queue := .empty
  phase := .absent
  events := []
  calls := []
  outcomes := []
  nextTicket := 0

def announce (event : Event) (app : App) : App :=
  { app with events := app.events ++ [event] }

/-- Put another queue in place and announce its state. -/
def showQueue (queue : ExecutionQueue) (app : App) : App :=
  { app with queue := queue }.announce (.queueChanged queue.state)

/-- Change the notebook and announce it. -/
def change {α : Type} (f : Notebook → Notebook × α) (app : App) : App × α :=
  let (notebook, result) := f app.notebook
  ({ app with notebook := notebook }.announce .cellsChanged, result)

/-- Edit the notebook and announce it. -/
def edit (e : Edit) (app : App) : App × e.Result :=
  app.change fun notebook => notebook.edit e

/-- Change what is known of the processor and announce it. -/
def actOnProcessor (action : ProcessorAction) (app : App) : App :=
  { app with processor := app.processor.act action }.announce .processorChanged

/-- Put a call into the journal; the result is its number. -/
def recordCall (call : ServiceCall) (app : App) : App × Nat :=
  ({ app with calls := app.calls ++ [call] }, app.calls.length)

/-- Put the end of a run on record. -/
def settle (ticket : Nat) (outcome : RunOutcome) (app : App) : App :=
  { app with outcomes := app.outcomes ++ [(ticket, outcome)] }

/-- How the run of a ticket ended, if it did. -/
def outcome? (ticket : Nat) (app : App) : Option RunOutcome :=
  (app.outcomes.find? fun entry => entry.1 == ticket).map Prod.snd

theorem mem_of_outcome? {ticket : Nat} {outcome : RunOutcome} {app : App}
    (found : app.outcome? ticket = some outcome) : (ticket, outcome) ∈ app.outcomes := by
  rcases Option.map_eq_some_iff.1 found with ⟨⟨ticket', _⟩, first, rfl⟩
  have same : ticket' = ticket := by simpa using List.find?_some first
  exact same ▸ List.mem_of_find?_eq_some first

theorem outcome?_eq_none_iff {ticket : Nat} {app : App} :
    app.outcome? ticket = none ↔ ticket ∉ app.outcomes.map Prod.fst := by
  rw [outcome?, Option.map_eq_none_iff, List.find?_eq_none]
  refine ⟨fun none member => ?_, fun absent entry member same => absent ?_⟩
  · rcases List.mem_map.1 member with ⟨entry, onRecord, same⟩
    exact none entry onRecord (beq_iff_eq.2 same)
  · exact List.mem_map.2 ⟨entry, member, beq_iff_eq.1 same⟩

/-- Append a run of a cell to the queue and start the loop if there is none; the result is the
ticket. -/
def enqueue (cellId : String) (app : App) : App × Nat :=
  let (queue, start) := app.queue.enqueue ⟨cellId, app.nextTicket⟩
  let queued := { app with nextTicket := app.nextTicket + 1 }.showQueue queue
  (if start then { queued with phase := .ready } else queued, app.nextTicket)

/-- An enqueue changes the queue and the supply of tickets, announces the queue, and may start the
loop. -/
theorem enqueue_eq (cellId : String) (app : App) :
    (app.enqueue cellId).1 =
      { ({ app with nextTicket := app.nextTicket + 1 }.showQueue
          (app.queue.enqueue ⟨cellId, app.nextTicket⟩).1) with
        phase := if app.queue.draining then app.phase else .ready } := by
  unfold enqueue ExecutionQueue.enqueue
  cases app.queue.draining <;> rfl

theorem enqueue_notebook (cellId : String) (app : App) :
    (app.enqueue cellId).1.notebook = app.notebook := by
  rw [enqueue_eq]
  rfl

theorem enqueue_calls (cellId : String) (app : App) :
    (app.enqueue cellId).1.calls = app.calls := by
  rw [enqueue_eq]
  rfl

theorem enqueue_outcomes (cellId : String) (app : App) :
    (app.enqueue cellId).1.outcomes = app.outcomes := by
  rw [enqueue_eq]
  rfl

/-- Steps of another task that do not wait. -/
inductive Action
  | edit (edit : Edit)
  | enqueue (cellId : String)
  | processor (action : ProcessorAction)
  /-- Announce a change of cells without one. -/
  | announce

/-- What a step returns. -/
abbrev Action.Result : Action → Type
  | .edit e => e.Result
  | .enqueue _ => Unit
  | .processor _ => Unit
  | .announce => Unit

/-- The application after a step of another task. -/
def act (app : App) : (action : Action) → App × action.Result
  | .edit e => app.edit e
  | .enqueue cellId => ((app.enqueue cellId).1, ())
  | .processor action => (app.actOnProcessor action, ())
  | .announce => (app.announce .cellsChanged, ())

/-- The application after the steps of another task. -/
def attend (actions : List Action) (app : App) : App :=
  actions.foldl (fun app action => (app.act action).1) app

end App

end AsmNotebook
