import AsmNotebook.Proofs.Interleaving.RunAll
import AsmNotebook.Proofs.Notebook.Kept

namespace AsmNotebook
namespace Interleaving

/-!
# What is left after a crash

The loop does not outlive a call that dies.  On its way out it puts back four
things that it was responsible for: its own run and all runs that wait are
skipped, the queue is idle and empty, and the cell under way is not marked any
more.  `Unwound` says so of the application that the loop leaves behind, and
that nothing else is different.

Between the beginning of the run and its crash, other tasks may have queued
more runs.  They wait behind the others and share their fate.  Whoever runs a
cell afterwards finds the application at rest, and starts another loop.
-/

/-- Entries of cells that are queued one after another, with tickets from a number on. -/
def entriesFrom (ticket : Nat) : List String → List QueueEntry
  | [] => []
  | cellId :: rest => ⟨cellId, ticket⟩ :: entriesFrom (ticket + 1) rest

/-- The ends on record of runs that were skipped. -/
def skips (entries : List QueueEntry) : List (Nat × RunOutcome) :=
  entries.map fun entry => (entry.ticket, .skipped)

/-- What the run of an entry changes up to its call. -/
structure Placed (entry : QueueEntry) (call : ServiceCall) (app app' : App) : Prop where
  queue : app'.queue = app.queue
  nextTicket : app'.nextTicket = app.nextTicket
  notebook : app'.notebook = app.notebook.modify entry.cellId fun cell =>
    { cell with isRunning := true, output := none }
  processor : app'.processor = app.processor
  calls : app'.calls = app.calls ++ [call]
  outcomes : app'.outcomes = app.outcomes

/-- What other tasks change that queue runs while a loop is there. -/
structure Lengthened (cellIds : List String) (app app' : App) : Prop where
  queue : app'.queue =
    { app.queue with pending := app.queue.pending ++ entriesFrom app.nextTicket cellIds }
  phase : app'.phase = app.phase
  notebook : app'.notebook = app.notebook
  processor : app'.processor = app.processor
  calls : app'.calls = app.calls
  outcomes : app'.outcomes = app.outcomes

/-- What the loop leaves behind when it dies during the run of an entry. -/
structure Unwound (entry : QueueEntry) (app app' : App) : Prop where
  queue : app'.queue = .empty
  phase : app'.phase = .absent
  notebook : app'.notebook =
    app.notebook.modify entry.cellId fun cell => { cell with isRunning := false }
  processor : app'.processor = app.processor
  calls : app'.calls = app.calls
  outcomes : app'.outcomes = app.outcomes ++ skips (entry :: app.queue.pending)

/-- What all this comes to. -/
structure Gone (entry : QueueEntry) (call : ServiceCall) (cellIds : List String) (app app' : App) :
    Prop where
  /-- The queue is idle and empty. -/
  queue : app'.queue = .empty
  /-- There is no loop. -/
  phase : app'.phase = .absent
  /-- The count of executions and all other cells are as before.  The cell of the run has lost its
  output, and it is not marked. -/
  notebook : app'.notebook = app.notebook.modify entry.cellId fun cell =>
    { cell with output := none, isRunning := false }
  processor : app'.processor = app.processor
  /-- Nothing was dispatched but the text of the run. -/
  calls : app'.calls = app.calls ++ [call]
  /-- The run is skipped, and all that waited, also those that came meanwhile. -/
  outcomes : app'.outcomes = app.outcomes ++
    skips (entry :: (app.queue.pending ++ entriesFrom app.nextTicket cellIds))

variable {notebook : Notebook} {trace : List Label} {app begun : App} {entry : QueueEntry}
variable {source : String} {call : ServiceCall}

theorem enqueue_lengthened (draining : app.queue.draining = true) (cellId : String) :
    Lengthened [cellId] app (app.enqueue cellId).1 := by
  have same : ExecutionQueue.mk (app.queue.pending ++ [⟨cellId, app.nextTicket⟩])
      app.queue.executing true = { app.queue with
        pending := app.queue.pending ++ entriesFrom app.nextTicket [cellId] } := by
    rw [← draining]
    rfl
  rw [App.enqueue_eq, draining]
  exact ⟨same, rfl, rfl, rfl, rfl, rfl⟩

theorem attend_lengthened (draining : app.queue.draining = true) (cellIds : List String) :
    Lengthened cellIds app (app.attend (cellIds.map .enqueue)) := by
  induction cellIds generalizing app with
  | nil =>
    refine ⟨?_, rfl, rfl, rfl, rfl, rfl⟩
    rw [entriesFrom, List.append_nil]
    rfl
  | cons cellId rest inductionHypothesis =>
    have first := enqueue_lengthened draining cellId
    have draining' : (app.enqueue cellId).1.queue.draining = true := by
      rw [first.queue]
      exact draining
    have next : (app.enqueue cellId).1.nextTicket = app.nextTicket + 1 := by
      rw [App.enqueue_eq]
      rfl
    have others := inductionHypothesis draining'
    have queue := others.queue
    rw [first.queue, next] at queue
    refine
      { queue := queue.trans ?_
        phase := others.phase.trans first.phase
        notebook := others.notebook.trans first.notebook
        processor := others.processor.trans first.processor
        calls := others.calls.trans first.calls
        outcomes := others.outcomes.trans first.outcomes }
    simp [entriesFrom]

theorem cancel_eq (entries : List QueueEntry) (app : App) :
    app.cancel entries = { app with outcomes := app.outcomes ++ skips entries } := by
  induction entries generalizing app with
  | nil =>
    rw [skips, List.map_nil, List.append_nil]
    rfl
  | cons entry entries inductionHypothesis =>
    refine (inductionHypothesis _).trans ?_
    simp [App.settle, skips]

theorem crash_unwound (executing : app.queue.executing = some entry.cellId) :
    Unwound entry app (app.crash entry) := by
  have crashed : app.crash entry =
      ((({ app.settle entry.ticket .skipped with phase := .absent }.showQueue .empty).recover
        entry.cellId).cancel app.queue.pending) := by
    simp only [App.crash, App.abandon, ExecutionQueue.abandon, App.settle, executing]
  rw [crashed, cancel_eq]
  refine ⟨rfl, rfl, rfl, rfl, rfl, ?_⟩
  change app.outcomes ++ [_] ++ _ = _
  simp [skips]

/-- The queue shows the cell of an entry that was taken out. -/
theorem Owned.taken (owned : Owned ⟨app, [.taken entry]⟩) :
    app.queue.draining = true ∧ app.queue.executing = some entry.cellId := by
  cases owned with
  | idle none _ => cases none
  | busy stage one draining showing =>
    cases one
    exact ⟨draining, showing⟩

theorem place_placed (begins : app.begin entry = (begun, some source)) (call : ServiceCall) :
    Placed entry call app (begun.place entry call) := by
  rcases App.begin_some begins with ⟨marked, begins', rfl⟩
  rcases Notebook.begin?_eq_some begins' with ⟨_, _, _, _, rfl⟩
  exact ⟨rfl, rfl, rfl, rfl, rfl, rfl⟩

/-- The text of the run is dispatched, other tasks queue runs, and the loop dies with the call. -/
theorem dying_run (begins : app.begin entry = (begun, some source))
    (routed : route source = .call call) (owned : Owned ⟨app, [.taken entry]⟩)
    (cellIds : List String) :
    ∃ trace, Run ⟨app, [.taken entry]⟩ trace
      (.solo ((begun.place entry call).resume entry call ⟨[], cellIds.map .enqueue, none⟩)) := by
  have called : Run ⟨app, [.taken entry]⟩ [.begin entry source, .dispatch entry source]
      (.solo (begun.place entry call)) :=
    (Run.move (.begin begins)).append (.move (.call routed))
  have owned' := owned.run called
  rcases attend_run owned' (cellIds.map .enqueue) with ⟨_, attended⟩
  have still := attend_phase owned' nofun (cellIds.map .enqueue)
  rcases crash_run still with ⟨_, _, _, crashed⟩
  exact ⟨_, called.append (attended.append crashed)⟩

/-- The changes that the run of an entry makes from its beginning to its crash. -/
theorem resume_gone (begins : app.begin entry = (begun, some source))
    (call : ServiceCall) (owned : Owned ⟨app, [.taken entry]⟩) (cellIds : List String) :
    Gone entry call cellIds app
      ((begun.place entry call).resume entry call ⟨[], cellIds.map .enqueue, none⟩) := by
  rcases owned.taken with ⟨draining, executing⟩
  have placed := place_placed begins call
  have lengthened := attend_lengthened (placed.queue ▸ draining) cellIds
  have executing' : ((begun.place entry call).attend (cellIds.map .enqueue)).queue.executing =
      some entry.cellId := by
    rw [lengthened.queue, placed.queue]
    exact executing
  have unwound := crash_unwound executing'
  refine
    { queue := unwound.queue
      phase := unwound.phase
      notebook := unwound.notebook.trans ?_
      processor := unwound.processor.trans (lengthened.processor.trans placed.processor)
      calls := unwound.calls.trans (lengthened.calls.trans placed.calls)
      outcomes := unwound.outcomes.trans ?_ }
  · rw [lengthened.notebook, placed.notebook]
    refine Notebook.modify_modify ?_ _ app.notebook
    intro cell
    rfl
  · rw [lengthened.outcomes, lengthened.queue, placed.outcomes, placed.queue, placed.nextTicket]

/-- A run that ended in a crash is over, for everybody who waited and for those who come later. -/
structure Contained (entry : QueueEntry) (call : ServiceCall) (cellIds : List String)
    (app app' : App) : Prop extends Gone entry call cellIds app app' where
  /-- Whoever waits for the end of one of these runs is told that it was skipped. -/
  told : ∀ other ∈ entry :: (app.queue.pending ++ entriesFrom app.nextTicket cellIds),
    app'.awaitOutcome other.ticket = .done (app', .skipped)
  /-- A cell that was not marked before has lost its output, and nothing else. -/
  unmarked : (∀ cell, app.notebook.find? entry.cellId = some cell → cell.isRunning = false) →
    app'.notebook = app.notebook.modify entry.cellId fun cell => { cell with output := none }
  /-- Whenever the queue is idle again, a run of a cell that is not blank starts another loop, and is
  completed unless its own call dies. -/
  later : ∀ {trace : List Label} {after : App}, Run (.solo app') trace (.solo after) →
    after.queue.draining = false → ∀ {cellId : String} {cell : Cell},
      after.notebook.find? cellId = some cell → cell.isBlank = false →
        after.phase = .absent ∧ (after.enqueue cellId).1.phase = .ready ∧
          ∀ {σ : Type} {world : σ → (query : Query) → σ × query.Reply} {state : σ},
            (∀ exchange ∈ Dialogue.trail world state (after.run cellId), ¬ Died exchange) →
              ∃ count output,
                (Dialogue.run world state (after.run cellId)).2.2 = .completed count output

theorem mem_skips {entries : List QueueEntry} (member : entry ∈ entries) :
    (entry.ticket, .skipped) ∈ skips entries :=
  List.mem_map_of_mem member

/-- A crash is contained, whatever waits in the queue. -/
theorem crash_contained (reached : Run (.new notebook) trace ⟨app, [.taken entry]⟩)
    (begins : app.begin entry = (begun, some source)) (routed : route source = .call call)
    (cellIds : List String) :
    Contained entry call cellIds app
      ((begun.place entry call).resume entry call ⟨[], cellIds.map .enqueue, none⟩) := by
  have owned := (owned_new notebook).run reached
  rcases dying_run begins routed owned cellIds with ⟨_, dying⟩
  have reached' := reached.append dying
  have gone := resume_gone begins call owned cellIds
  generalize (begun.place entry call).resume entry call ⟨[], cellIds.map .enqueue, none⟩ = app'
    at reached' gone
  refine { toGone := gone, told := ?_, unmarked := ?_, later := ?_ }
  · intro other waited
    have onRecord : (other.ticket, .skipped) ∈ app'.outcomes := by
      rw [gone.outcomes]
      exact List.mem_append_right _ (mem_skips waited)
    have known : app'.outcome? other.ticket = some .skipped :=
      reached'.ticketed.outcome?_of_mem onRecord
    unfold App.awaitOutcome
    rw [App.await_of_there known]
    rfl
  · intro unmarked
    rw [gone.notebook]
    apply Notebook.modify_congr
    intro cell found
    rw [← unmarked cell found]
  · intro trace' after run idle cellId cell found readable
    have rests := atRest_of_idle (reached'.append run) idle
    refine ⟨rests.absent, (rests.enqueue cellId).2, ?_⟩
    intro σ world state answered
    have turn : Turn world state after cellId := turn_of_rests rests cellId
    exact turn.completed.2 ⟨⟨cell, found, readable⟩, answered⟩

/-- A cell whose run dies waits for another run, behind a cell that is queued again meanwhile. -/
theorem crash_contained_repeated_cells :
    ∃ trace app begun,
      Run (.new ⟨[.new "x" .code "1", .new "y" .code "2"], 0, 0⟩) trace
        ⟨app, [.taken ⟨"x", 0⟩]⟩ ∧
      app.queue.pending = [⟨"y", 1⟩, ⟨"x", 2⟩] ∧ app.begin ⟨"x", 0⟩ = (begun, some "1") ∧
        route "1" = .call (.execute "1") ∧
          Contained ⟨"x", 0⟩ (.execute "1") ["y", "z"] app
            ((begun.place ⟨"x", 0⟩ (.execute "1")).resume ⟨"x", 0⟩ (.execute "1")
              ⟨[], ["y", "z"].map .enqueue, none⟩) := by
  have routed : route "1" = .call (.execute "1") := rfl
  have reached : ∃ trace app begun,
      Run (.new ⟨[.new "x" .code "1", .new "y" .code "2"], 0, 0⟩) trace
        ⟨app, [.taken ⟨"x", 0⟩]⟩ ∧
      app.queue.pending = [⟨"y", 1⟩, ⟨"x", 2⟩] ∧ app.begin ⟨"x", 0⟩ = (begun, some "1") :=
    ⟨_, _, _, .cons (.enqueue "x") (.cons (.enqueue "y") (.cons (.enqueue "x")
      (.cons (.task [] [] .spawn) (.single (.task [] [] (.dequeue rfl)))))), rfl, rfl⟩
  rcases reached with ⟨trace, app, begun, run, pending, begins⟩
  exact ⟨trace, app, begun, run, pending, begins, routed,
    crash_contained run begins routed ["y", "z"]⟩

/-- A world in which every call dies. -/
def deadWorld (errands : (errand : Errand) → errand.Reply) :
    Unit → (query : Query) → Unit × query.Reply
  | state, .attend _ => (state, .undisturbed none)
  | state, .errand errand => (state, errands errand)

/-- Nothing better can be said of a cell that was marked by an edit, since the mark goes with the
crash, nor of a later run whose own call dies. -/
theorem crash_takes_mark :
    ∃ trace app begun,
      Run (.new ⟨[.new "a" .code "1"], 0, 0⟩) trace ⟨app, [.taken ⟨"a", 0⟩]⟩ ∧
      app.begin ⟨"a", 0⟩ = (begun, some "1") ∧ route "1" = .call (.execute "1") ∧
        let after :=
          (begun.place ⟨"a", 0⟩ (.execute "1")).resume ⟨"a", 0⟩ (.execute "1") (.undisturbed none)
        after.notebook ≠ app.notebook.modify "a" (fun cell => { cell with output := none }) ∧
          ∀ errands, (Dialogue.run (deadWorld errands) () (after.run "a")).2.2 = .skipped :=
  ⟨_, _, _, .cons (.edit (.update "a" { CellUpdate.none with isRunning := some true }))
    (.cons (.enqueue "a") (.cons (.task [] [] .spawn) (.single (.task [] [] (.dequeue rfl))))),
    rfl, rfl, by decide, fun _ => rfl⟩

end Interleaving
end AsmNotebook
