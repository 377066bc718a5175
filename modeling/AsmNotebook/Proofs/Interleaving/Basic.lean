import AsmNotebook.App.Loop
import Mathlib.Data.List.Induction

namespace AsmNotebook
namespace Interleaving

/-!
# Tasks at work on one application

On one thread a single field of the application says where its loop stands.
Here that field is not trusted.  Any number of tasks may drain the queue,
each stands at a stage of its own, and one step moves one task over one
operation that no other task can split.  Callers may queue runs, edit, act on
the processor and consult the assistant between any two steps.

The operations are those of `App.Loop`; nothing here computes anything anew.
Which task moves next, what callers do, what a service answers and whether it
dies is left open, so a statement about all runs of this relation is one
about all schedules.  Two readings are fixed.  To store a result in the
notebook and in the processor, with what is announced of it, is one step.  A
task that is owed is started at some time and not forgotten, so it may wait
but it never vanishes.
-/

/-- Where a task that drains the queue stands between two of its steps. -/
inductive Stage
  /-- The queue was found idle, and the task has not been started. -/
  | owed
  /-- The next run is about to be taken out. -/
  | ready
  | taken (entry : QueueEntry)
  | begun (entry : QueueEntry) (source : String)
  | waiting (entry : QueueEntry) (number : Nat) (call : ServiceCall)
  | dispatched (entry : QueueEntry) (dispatch : Dispatch)
  /-- The end of the run is known, and the queue still shows its cell. -/
  | ended (entry : QueueEntry) (outcome : RunOutcome)
  | released (entry : QueueEntry) (outcome : RunOutcome)
  /-- The call died, and the entry is about to be dropped. -/
  | dying (entry : QueueEntry)
  /-- The entry is dropped, and the queue is about to be given up. -/
  | unwinding (entry : QueueEntry)
  | recovering (cellId : String) (others : List QueueEntry)
  | cancelling (others : List QueueEntry)

namespace Stage

/-- Whether the task may still take out a run or give the queue up. -/
def live : Stage → Bool
  | recovering _ _ => false
  | cancelling _ => false
  | _ => true

/-- Whether the text of a cell is with the router. -/
def dispatching : Stage → Bool
  | begun _ _ => true
  | waiting _ _ _ => true
  | _ => false

/-- The cell that the queue shows as under way while a live task stands here. -/
def cell? : Stage → Option String
  | taken entry => some entry.cellId
  | begun entry _ => some entry.cellId
  | waiting entry _ _ => some entry.cellId
  | dispatched entry _ => some entry.cellId
  | ended entry _ => some entry.cellId
  | dying entry => some entry.cellId
  | unwinding entry => some entry.cellId
  | _ => none

/-- Entries that are off the queue and whose end has not been told. -/
def held : Stage → List QueueEntry
  | owed => []
  | ready => []
  | taken entry => [entry]
  | begun entry _ => [entry]
  | waiting entry _ _ => [entry]
  | dispatched entry _ => [entry]
  | ended entry _ => [entry]
  | released entry _ => [entry]
  | dying entry => [entry]
  | unwinding _ => []
  | recovering _ others => others
  | cancelling others => others

end Stage

/-- What a step did. -/
inductive Label
  | enqueue (entry : QueueEntry)
  | edit (edit : Edit)
  | processor (action : ProcessorAction)
  | announce
  | consult (question : String)
  | spawn
  /-- The loop found nothing to take out and is gone. -/
  | leave
  | dequeue (entry : QueueEntry)
  /-- The cell of the entry is blank or gone. -/
  | pass (entry : QueueEntry)
  | begin (entry : QueueEntry) (source : String)
  | dispatch (entry : QueueEntry) (source : String)
  | answer (entry : QueueEntry) (call : ServiceCall) (answer : call.Answer)
  | crash (entry : QueueEntry)
  | store (entry : QueueEntry) (dispatch : Dispatch) (outcome : RunOutcome)
  | release (entry : QueueEntry)
  | finish (entry : QueueEntry) (outcome : RunOutcome)
  /-- The entry whose call died is dropped, which skips its run. -/
  | drop (entry : QueueEntry)
  /-- The queue is given up after the call of the first entry died. -/
  | abandon (crashed : QueueEntry) (others : List QueueEntry)
  | recover (cellId : String)
  | cancel (entry : QueueEntry)
  | vanish

/-- Whether a step is one of a caller. -/
def Label.ofCaller : Label → Bool
  | .enqueue _ => true
  | .edit _ => true
  | .processor _ => true
  | .announce => true
  | .consult _ => true
  | _ => false

/-- One step of a task: the application and the stage before, what is done, and both after.  A task
without a stage has ended. -/
inductive Advance : App → Stage → Label → App → Option Stage → Prop
  | spawn {app : App} : Advance app .owed .spawn app (some .ready)
  | leave {app gone : App} (found : app.take = (gone, none)) :
      Advance app .ready .leave gone none
  | dequeue {app taken : App} {entry : QueueEntry} (found : app.take = (taken, some entry)) :
      Advance app .ready (.dequeue entry) taken (some (.taken entry))
  | pass {app same : App} {entry : QueueEntry} (found : app.begin entry = (same, none)) :
      Advance app (.taken entry) (.pass entry) same (some (.ended entry .skipped))
  | begin {app begun : App} {entry : QueueEntry} {source : String}
      (found : app.begin entry = (begun, some source)) :
      Advance app (.taken entry) (.begin entry source) begun (some (.begun entry source))
  | reply {app : App} {entry : QueueEntry} {source : String} {output : Output}
      (routed : route source = .done output) :
      Advance app (.begun entry source) (.dispatch entry source) app
        (some (.dispatched entry (.plain output)))
  | call {app : App} {entry : QueueEntry} {source : String} {call : ServiceCall}
      (routed : route source = .call call) :
      Advance app (.begun entry source) (.dispatch entry source) (app.place entry call)
        (some (.waiting entry app.calls.length call))
  | answer {app : App} {entry : QueueEntry} {number : Nat} {call : ServiceCall}
      (answer : call.Answer) :
      Advance app (.waiting entry number call) (.answer entry call answer) app
        (some (.dispatched entry (conclude call answer)))
  | crash {app : App} {entry : QueueEntry} {number : Nat} {call : ServiceCall} :
      Advance app (.waiting entry number call) (.crash entry) app (some (.dying entry))
  | store {app : App} {entry : QueueEntry} {dispatch : Dispatch} :
      Advance app (.dispatched entry dispatch)
        (.store entry dispatch (app.store entry.cellId dispatch).2)
        (app.store entry.cellId dispatch).1
        (some (.ended entry (app.store entry.cellId dispatch).2))
  | release {app : App} {entry : QueueEntry} {outcome : RunOutcome} :
      Advance app (.ended entry outcome) (.release entry) (app.release entry.cellId)
        (some (.released entry outcome))
  | finish {app : App} {entry : QueueEntry} {outcome : RunOutcome} :
      Advance app (.released entry outcome) (.finish entry outcome)
        (app.settle entry.ticket outcome) (some .ready)
  | drop {app : App} {entry : QueueEntry} :
      Advance app (.dying entry) (.drop entry) (app.settle entry.ticket .skipped)
        (some (.unwinding entry))
  | abandon {app idle : App} {entry : QueueEntry} {cellId : String} {others : List QueueEntry}
      (found : app.abandon = (idle, some cellId, others)) :
      Advance app (.unwinding entry) (.abandon entry others) idle
        (some (.recovering cellId others))
  | abandonIdle {app idle : App} {entry : QueueEntry} {others : List QueueEntry}
      (found : app.abandon = (idle, none, others)) :
      Advance app (.unwinding entry) (.abandon entry others) idle (some (.cancelling others))
  | recover {app : App} {cellId : String} {others : List QueueEntry} :
      Advance app (.recovering cellId others) (.recover cellId) (app.recover cellId)
        (some (.cancelling others))
  | cancel {app : App} {entry : QueueEntry} {others : List QueueEntry} :
      Advance app (.cancelling (entry :: others)) (.cancel entry)
        (app.settle entry.ticket .skipped) (some (.cancelling others))
  | vanish {app : App} : Advance app (.cancelling []) .vanish app none

/-- A task changes the notebook in three ways: it begins a run, stores a result, or recovers the cell of
a run that died. -/
theorem Advance.notebook_cases {app app' : App} {stage : Stage} {label : Label}
    {next : Option Stage} (advance : Advance app stage label app' next) :
    app'.notebook = app.notebook ∨
      (∃ entry source, label = .begin entry source ∧
        app.notebook.begin? entry.cellId = some (app'.notebook, source)) ∨
      (∃ entry dispatch outcome, label = .store entry dispatch outcome ∧
        app'.notebook = (app.notebook.complete entry.cellId dispatch.output).1) ∨
      ∃ cellId, label = .recover cellId ∧ app'.notebook = (app.notebook.edit
        (.update cellId { CellUpdate.none with isRunning := some false })).1 := by
  cases advance with
  | leave found =>
    rcases App.take_none found with ⟨queue, rfl, _⟩
    exact Or.inl rfl
  | dequeue found =>
    rcases App.take_some found with ⟨rest, _, _, rfl⟩
    exact Or.inl rfl
  | pass found =>
    rcases App.begin_none found with ⟨rfl, _⟩
    exact Or.inl rfl
  | begin found =>
    rcases App.begin_some found with ⟨begun, same, rfl⟩
    exact Or.inr (Or.inl ⟨_, _, rfl, same⟩)
  | store => exact Or.inr (Or.inr (Or.inl ⟨_, _, _, rfl, App.store_notebook _ _ _⟩))
  | abandon found | abandonIdle found =>
    rcases App.abandon_eq found with ⟨rfl, _⟩
    exact Or.inl rfl
  | recover => exact Or.inr (Or.inr (Or.inr ⟨_, rfl, rfl⟩))
  | spawn | reply | call | answer | crash | release | finish | drop | cancel | vanish =>
    exact Or.inl rfl

/-- An application with the tasks that drain its queue. -/
structure Crew where
  app : App
  tasks : List Stage

namespace Crew

/-- A new application, with no task at work. -/
def new (notebook : Notebook) : Crew where
  app := .new notebook
  tasks := []

/-- The number of live tasks. -/
def live (crew : Crew) : Nat :=
  crew.tasks.countP Stage.live

/-- The number of texts that are with the router. -/
def dispatching (crew : Crew) : Nat :=
  crew.tasks.countP Stage.dispatching

end Crew

/-- The task that an enqueue owes the queue, if it finds the queue idle. -/
def owedBy (cellId : String) (app : App) : List Stage :=
  if (app.queue.enqueue ⟨cellId, app.nextTicket⟩).2 then [.owed] else []

theorem eq_owed_of_mem {cellId : String} {app : App} {stage : Stage}
    (member : stage ∈ owedBy cellId app) : stage = .owed := by
  unfold owedBy at member
  split at member
  · exact List.mem_singleton.1 member
  · cases member

/-- A task that is owed has nothing in hand. -/
theorem filterMap_owedBy {α : Type} {f : Stage → Option α} (nothing : f .owed = none)
    (cellId : String) (app : App) : (owedBy cellId app).filterMap f = [] := by
  apply List.filterMap_eq_nil_iff.2
  intro stage member
  rw [eq_owed_of_mem member]
  exact nothing

/-- One step of a caller or of a task. -/
inductive Step : Crew → Label → Crew → Prop
  | enqueue {app : App} {tasks : List Stage} (cellId : String) :
      Step ⟨app, tasks⟩ (.enqueue ⟨cellId, app.nextTicket⟩)
        ⟨(app.enqueue cellId).1, tasks ++ owedBy cellId app⟩
  | edit {app : App} {tasks : List Stage} (edit : Edit) :
      Step ⟨app, tasks⟩ (.edit edit) ⟨(app.edit edit).1, tasks⟩
  | processor {app : App} {tasks : List Stage} (action : ProcessorAction) :
      Step ⟨app, tasks⟩ (.processor action) ⟨app.actOnProcessor action, tasks⟩
  | announce {app : App} {tasks : List Stage} :
      Step ⟨app, tasks⟩ .announce ⟨app.announce .cellsChanged, tasks⟩
  | consult {app : App} {tasks : List Stage} (question : String) :
      Step ⟨app, tasks⟩ (.consult question) ⟨(app.recordCall (.ask question)).1, tasks⟩
  | task {app app' : App} {stage : Stage} {label : Label} {next : Option Stage}
      (before after : List Stage) (advance : Advance app stage label app' next) :
      Step ⟨app, before ++ stage :: after⟩ label ⟨app', before ++ next.toList ++ after⟩

/-- After a step of a task, the tasks are the other ones and, unless it has ended, the task at its
next stage. -/
theorem mem_after_task {before after : List Stage} {next : Option Stage} {stage : Stage}
    (member : stage ∈ before ++ next.toList ++ after) :
    stage ∈ before ++ after ∨ next = some stage := by
  simp only [List.mem_append, Option.mem_toList] at member ⊢
  rcases member with (front | moved) | back
  · exact Or.inl (Or.inl front)
  · exact Or.inr moved
  · exact Or.inl (Or.inr back)

theorem mem_before_task {before after : List Stage} {moving stage : Stage}
    (member : stage ∈ before ++ after) : stage ∈ before ++ moving :: after := by
  rcases List.mem_append.1 member with front | back
  · exact List.mem_append_left _ front
  · exact List.mem_append_right _ (List.mem_cons_of_mem _ back)

/-- Steps one after another, with what they did. -/
inductive Run : Crew → List Label → Crew → Prop
  | nil {crew : Crew} : Run crew [] crew
  | cons {crew next last : Crew} {label : Label} {trace : List Label}
      (step : Step crew label next) (rest : Run next trace last) :
      Run crew (label :: trace) last

namespace Run

variable {crew next last : Crew} {label : Label} {trace before after : List Label}

theorem single (step : Step crew label next) : Run crew [label] next :=
  cons step nil

theorem append (first : Run crew before next) (second : Run next after last) :
    Run crew (before ++ after) last := by
  induction first with
  | nil => exact second
  | cons step _ inductionHypothesis => exact cons step (inductionHypothesis second)

/-- A run over two traces in a row passes through a crew between them. -/
theorem split (run : Run crew (before ++ after) last) :
    ∃ middle, Run crew before middle ∧ Run middle after last := by
  induction before generalizing crew with
  | nil => exact ⟨crew, nil, run⟩
  | cons label before inductionHypothesis =>
    cases run with
    | cons step rest =>
      rcases inductionHypothesis rest with ⟨middle, first, second⟩
      exact ⟨middle, cons step first, second⟩

theorem snoc (run : Run crew trace next) (step : Step next label last) :
    Run crew (trace ++ [label]) last :=
  run.append (single step)

/-- A run that ends with a step. -/
theorem unsnoc (run : Run crew (trace ++ [label]) last) :
    ∃ middle, Run crew trace middle ∧ Step middle label last := by
  rcases run.split with ⟨middle, first, second⟩
  cases second with
  | cons step rest =>
    cases rest
    exact ⟨middle, first, step⟩

/-- A run passes through each of its steps. -/
theorem at_label (run : Run crew (before ++ label :: after) last) :
    ∃ middle next, Run crew before middle ∧ Step middle label next ∧ Run next after last := by
  rcases run.split with ⟨middle, first, second⟩
  cases second with
  | cons step rest => exact ⟨middle, _, first, step, rest⟩

/-- What holds at the start and outlives every step holds along a run. -/
theorem invariant {holds : Crew → Prop} (run : Run crew trace last) (start : holds crew)
    (keeps : ∀ {crew label next}, Step crew label next → holds crew → holds next) :
    holds last := by
  induction run with
  | nil => exact start
  | cons step _ inductionHypothesis => exact inductionHypothesis (keeps step start)

/-- What holds of a crew and what it did so far, and outlives every step, holds along a run. -/
theorem history {holds : Crew → List Label → Prop} (run : Run crew trace last)
    (start : holds crew [])
    (keeps : ∀ {middle next : Crew} {label : Label} {before : List Label},
      Run crew before middle → Step middle label next → holds middle before →
        holds next (before ++ [label])) : holds last trace := by
  induction trace using List.reverseRecOn generalizing last with
  | nil =>
    cases run
    exact start
  | append_singleton before label inductionHypothesis =>
    rcases run.unsnoc with ⟨middle, first, step⟩
    exact keeps first step (inductionHypothesis first)

end Run

end Interleaving
end AsmNotebook
