import AsmNotebook.Proofs.Interleaving.Attribution
import AsmNotebook.Proofs.Interleaving.Conservation
import AsmNotebook.Proofs.Interleaving.Suspension
import AsmNotebook.Proofs.Notebook.Running

namespace AsmNotebook
namespace Interleaving

/-!
# Marked cells and the queue

The notebook marks the cell whose run is under way, and the queue shows it.
Nothing changes both at once.  A task owes it to the cell that it marked to
take the mark away, from the begin of the run until its result is stored, or
until the cell is recovered after a crash.  `Marked` says that no cell is
marked but those that tasks owe, which every step of every schedule keeps.
On one thread there is one task, and where it waits the queue shows its cell.
-/

/-- The cell whose mark a task that stands here is to take away. -/
def Stage.marked? : Stage → Option String
  | begun entry _ => some entry.cellId
  | waiting entry _ _ => some entry.cellId
  | dispatched entry _ => some entry.cellId
  | dying entry => some entry.cellId
  | unwinding entry => some entry.cellId
  | recovering cellId _ => some cellId
  | _ => none

/-- Cells whose marks tasks are to take away. -/
def Crew.marked (crew : Crew) : List String :=
  crew.tasks.filterMap Stage.marked?

/-- Cells are marked for tasks, each the first of its identifier, and the supply is ahead of all
identifiers in use. -/
structure Marked (crew : Crew) : Prop where
  runs : Notebook.RunsOnly crew.marked crew.app.notebook.cells
  unused : ∀ n, crew.app.notebook.nextId ≤ n → freshId n ∉ crew.app.notebook.ids

variable {start crew crew' last : Crew} {label : Label} {trace : List Label}
variable {app app' : App} {stage : Stage} {next : Option Stage} {others : List String}

/-- A task marks the cell of the run that it begins, and takes the mark away when it stores the
result or recovers the cell.  The queue shows a task that gives it up the cell to recover. -/
theorem Advance.runsOnly (advance : Advance app stage label app' next)
    (showing : stage.live = true → app.queue.executing = stage.cell?)
    (runs : Notebook.RunsOnly (stage.marked?.toList ++ others) app.notebook.cells) :
    Notebook.RunsOnly ((next.bind Stage.marked?).toList ++ others) app'.notebook.cells := by
  cases advance with
  | leave found =>
    rcases App.take_none found with ⟨queue, rfl, _⟩
    exact runs
  | dequeue found =>
    rcases App.take_some found with ⟨rest, _, _, rfl⟩
    exact runs
  | pass found =>
    rcases App.begin_none found with ⟨rfl, _⟩
    exact runs
  | begin found =>
    rcases App.begin_some found with ⟨notebook, begun, rfl⟩
    exact Notebook.RunsOnly.begin runs begun
  | store =>
    rw [App.store_notebook]
    exact Notebook.RunsOnly.complete runs _
  | abandon found =>
    rcases App.abandon_eq found with ⟨rfl, shown, _⟩
    have same := (showing rfl).symm.trans shown
    cases same
    exact runs
  | abandonIdle found =>
    rcases App.abandon_eq found with ⟨_, shown, _⟩
    cases (showing rfl).symm.trans shown
  | recover =>
    apply Notebook.RunsOnly.stop runs
    · exact fun _ => rfl
    · exact fun _ => rfl
  | spawn | reply | call | answer | crash | release | finish | drop | cancel | vanish => exact runs

theorem mem_marked {before after : List Stage} (next : Option Stage) (id : String) :
    id ∈ Crew.marked ⟨app, before ++ next.toList ++ after⟩ ↔
      id ∈ (next.bind Stage.marked?).toList ++ (before ++ after).filterMap Stage.marked? := by
  cases next with
  | none => simp [Crew.marked]
  | some stage =>
    simp only [Crew.marked, List.mem_filterMap, List.mem_append, Option.toList_some,
      List.mem_singleton, Option.bind_some, Option.mem_toList, or_and_right, exists_or,
      exists_eq_left]
    rw [or_assoc, or_left_comm]

namespace Marked

theorem task {before after : List Stage} (marked : Marked ⟨app, before ++ stage :: after⟩)
    (owned : Owned ⟨app, before ++ stage :: after⟩) (advance : Advance app stage label app' next) :
    Marked ⟨app', before ++ next.toList ++ after⟩ := by
  constructor
  · have showing : stage.live = true → app.queue.executing = stage.cell? := by
      intro live
      exact (owned.alone live).2.2.2
    have whole : before ++ stage :: after = before ++ (some stage).toList ++ after := by simp
    have runs := marked.runs
    rw [whole] at runs
    have moved := advance.runsOnly showing (runs.mono fun id => (mem_marked (some stage) id).1)
    exact moved.mono fun id => (mem_marked next id).2
  · exact advance.supplied.unused marked.unused

theorem step (marked : Marked crew) (owned : Owned crew) (step : Step crew label crew')
    (unforced : ∀ edit, label = .edit edit → edit.Unforced) : Marked crew' := by
  cases step with
  | @enqueue app tasks cellId =>
    have same : Crew.marked ⟨(app.enqueue cellId).1, tasks ++ owedBy cellId app⟩ =
        Crew.marked ⟨app, tasks⟩ := by
      rw [Crew.marked, List.filterMap_append, filterMap_owedBy rfl, List.append_nil]
      rfl
    constructor
    · rw [same, App.enqueue_notebook]
      exact marked.runs
    · rw [App.enqueue_notebook]
      exact marked.unused
  | edit edit =>
    constructor
    · exact Notebook.RunsOnly.edit marked.runs marked.unused edit (unforced edit rfl)
    · exact (Notebook.edit_supplied _ edit).unused marked.unused
  | task before after advance => exact marked.task owned advance
  | processor | announce | consult => exact ⟨marked.runs, marked.unused⟩

theorem run (marked : Marked crew) (owned : Owned crew) (run : Run crew trace last)
    (unforced : Confined Edit.Unforced trace) : Marked last := by
  induction run with
  | nil => exact marked
  | cons step _ inductionHypothesis =>
    apply inductionHypothesis
    · apply marked.step owned step
      rintro edit rfl
      exact unforced edit List.mem_cons_self
    · exact owned.step step
    · intro edit member
      exact unforced edit (List.mem_cons_of_mem _ member)

/-- A task that waits has marked the cell that the queue shows. -/
theorem shown (marked : Marked crew) (owned : Owned crew) (rests : crew.Rests) :
    ∀ cell ∈ crew.app.notebook.cells, cell.isRunning = true →
      crew.app.queue.executing = some cell.id := by
  intro cell member running
  rcases List.mem_filterMap.1 (marked.runs.known cell member running) with ⟨stage, atWork, marks⟩
  rcases List.append_of_mem atWork with ⟨before, after, tasks⟩
  have alone : Owned ⟨crew.app, before ++ stage :: after⟩ := tasks ▸ owned
  rcases alone.alone (Stage.live_of_rests (rests stage atWork)) with ⟨_, _, _, showing⟩
  cases stage with
  | waiting entry number call => exact showing.trans marks
  | owed => cases marks
  | _ => cases rests _ atWork

/-- Where no task owes anything to a cell, no cell is marked. -/
theorem unmarked (marked : Marked crew) (none : crew.marked = []) :
    ∀ cell ∈ crew.app.notebook.cells, cell.isRunning = false := by
  have runs := marked.runs
  rw [none] at runs
  exact runs.none

/-- A queue that is idle while every task waits has no task, so no cell is marked. -/
theorem idle (marked : Marked crew) (owned : Owned crew) (rests : crew.Rests)
    (idle : crew.app.queue.draining = false) :
    ∀ cell ∈ crew.app.notebook.cells, cell.isRunning = false := by
  apply marked.unmarked
  cases owned with
  | busy _ _ draining _ => cases idle.symm.trans draining
  | idle none _ =>
    have empty : crew.tasks = [] := rests.live.symm.trans none
    rw [Crew.marked, empty]
    rfl

end Marked

/-! ## Ways to leave the loop -/

/-- Whether a step is the last one of a run that was taken out, or of the loop. -/
def Label.parts : Label → Bool
  | finish _ _ => true
  | recover _ => true
  | leave => true
  | vanish => true
  | _ => false

theorem Advance.marked_of_parts (advance : Advance app stage label app' next)
    (parts : label.parts = true) : next.bind Stage.marked? = none := by
  cases advance with
  | finish | recover | leave | vanish => rfl
  | _ => cases parts

/-- A run that was taken out is in the hands of a live task, or it has ended. -/
theorem Run.taken {notebook : Notebook} (run : Run (.new notebook) trace crew)
    {entry : QueueEntry} (taken : .dequeue entry ∈ trace) :
    (∃ stage ∈ crew.tasks, entry ∈ stage.held ∧ stage.live = true) ∨
      ∃ outcome, crew.app.outcome? entry.ticket = some outcome ∧
        Fate entry outcome (story entry trace) := by
  have inStory : .dequeue entry ∈ story entry trace := by
    apply List.mem_filter.2
    exact ⟨taken, by simp [Label.entries]⟩
  have left : entry ∈ removed trace := List.mem_flatMap.2 ⟨_, taken, List.mem_singleton_self _⟩
  have came : entry ∈ enqueued trace := by
    have all : removed trace ++ crew.app.queue.pending = enqueued trace := run.fifo
    rw [← all]
    exact List.mem_append_left _ left
  rcases run.ends came with ⟨unsettled, _⟩ | ended
  · rcases List.mem_append.1 unsettled with waits | inHand
    · rw [run.told.waiting entry waits] at inStory
      cases List.mem_singleton.1 inStory
    · rcases List.mem_flatMap.1 inHand with ⟨stage, atWork, held⟩
      refine Or.inl ⟨stage, atWork, held, ?_⟩
      -- What a dead task holds was handed back and never taken out.
      have lived := run.told.held stage atWork entry held
      generalize story entry trace = past at lived inStory
      cases lived with
      | recovering | cancelling => simp at inStory
      | _ => rfl
  · exact Or.inr ended

/-- What the marks of cells have to do with the queue, after steps on one thread. -/
structure FlagsAgree (start : Crew) (trace : List Label) (crew : Crew) : Prop where
  /-- At most one cell is marked. -/
  one : crew.app.notebook.cells.countP Cell.isRunning ≤ 1
  /-- Where every task waits, a marked cell is the one that the queue shows. -/
  shown : crew.Rests → ∀ cell ∈ crew.app.notebook.cells, cell.isRunning = true →
    crew.app.queue.executing = some cell.id
  /-- Where every task waits and the queue is idle, no cell is marked. -/
  idle : crew.Rests → crew.app.queue.draining = false →
    ∀ cell ∈ crew.app.notebook.cells, cell.isRunning = false
  /-- A run that was taken out is in the hands of the loop, or it was completed, passed over or lost
  with its call. -/
  leaves : ∀ entry, .dequeue entry ∈ trace →
    (∃ stage ∈ crew.tasks, entry ∈ stage.held ∧ stage.live = true) ∨
      ∃ outcome, crew.app.outcome? entry.ticket = some outcome ∧
        Fate entry outcome (story entry trace)
  /-- Whenever a run left the loop, or the loop left, no cell was marked. -/
  cleared : ∀ before label after, trace = before ++ label :: after → label.parts = true →
    ∃ left, OneThread start (before ++ [label]) left ∧ OneThread left after crew ∧
      ∀ cell ∈ left.app.notebook.cells, cell.isRunning = false

/-- The application is at rest after steps on one thread, and marks agree with the queue. -/
def FlagsAgreeAt (start : Crew) (app : App) : Prop :=
  ∃ trace, OneThread start trace (.resting app) ∧ FlagsAgree start trace (.resting app)

section

variable {cells : List Cell} {executionCount : UInt32} {nextId : Nat}

/-- A new application with given cells, none of which is marked. -/
theorem marked_new (unused : ∀ n, nextId ≤ n → freshId n ∉ cells.map Cell.id) :
    Marked (.new (.ofCells cells executionCount nextId)) where
  runs := Notebook.runsOnly_ofCells cells executionCount nextId
  unused := Notebook.unused_ofCells unused executionCount

theorem OneThread.marked (unused : ∀ n, nextId ≤ n → freshId n ∉ cells.map Cell.id)
    (thread : OneThread (.new (.ofCells cells executionCount nextId)) trace crew)
    (unforced : Confined Edit.Unforced trace) : Marked crew :=
  (marked_new unused).run (owned_new _) thread.run unforced

/-- With the last step of a run, or of the loop, the only task is rid of what it owed. -/
theorem OneThread.unmarked_of_parts {middle left : Crew} {notebook : Notebook}
    (thread : OneThread (.new notebook) trace middle) (step : Step middle label left)
    (parts : label.parts = true) : left.marked = [] := by
  cases step with
  | @task _ _ stage _ next before after advance =>
    have few := thread.length_tasks_le_one
    have none : before = [] ∧ after = [] := by
      simp only [List.length_append, List.length_cons] at few
      constructor
      · exact List.length_eq_zero_iff.1 (by omega)
      · exact List.length_eq_zero_iff.1 (by omega)
    rcases none with ⟨rfl, rfl⟩
    apply List.eq_nil_iff_forall_not_mem.2
    intro id member
    rw [mem_marked, advance.marked_of_parts parts] at member
    cases member
  | _ => cases parts

theorem OneThread.flagsAgree (unused : ∀ n, nextId ≤ n → freshId n ∉ cells.map Cell.id)
    (thread : OneThread (.new (.ofCells cells executionCount nextId)) trace crew)
    (unforced : Confined Edit.Unforced trace) :
    FlagsAgree (.new (.ofCells cells executionCount nextId)) trace crew where
  one := by
    have marked := thread.marked unused unforced
    calc
      crew.app.notebook.cells.countP Cell.isRunning ≤ crew.marked.length := marked.runs.countP_le
      _ ≤ crew.tasks.length := List.length_filterMap_le ..
      _ ≤ 1 := thread.length_tasks_le_one
  shown := (thread.marked unused unforced).shown ((owned_new _).run thread.run)
  idle := (thread.marked unused unforced).idle ((owned_new _).run thread.run)
  leaves := fun _ => thread.run.taken
  cleared := by
    rintro before label after rfl parts
    rw [List.append_cons] at thread unforced
    rcases thread.split with ⟨left, upTo, rest⟩
    refine ⟨left, upTo, rest, ?_⟩
    have marked : Marked left := by
      apply upTo.marked unused
      intro edit member
      exact unforced edit (List.mem_append_left _ member)
    apply marked.unmarked
    rcases upTo.split with ⟨middle, first, last⟩
    cases last with
    | cons step _ none =>
      cases none
      exact first.unmarked_of_parts step parts

/-- An application starts with cells whose identifiers are not among those still to come.  After any
steps on one thread, and wherever a job of a caller waits from then on, the marks of cells agree
with the queue, unless an edit sets a mark by itself. -/
theorem flags_agree (unused : ∀ n, nextId ≤ n → freshId n ∉ cells.map Cell.id)
    (thread : OneThread (.new (.ofCells cells executionCount nextId)) trace crew)
    (unforced : Confined Edit.Unforced trace) :
    FlagsAgree (.new (.ofCells cells executionCount nextId)) trace crew ∧
      ∀ app, crew = .resting app → ∀ job : Job,
        (job.work app).Visits Edit.Unforced
          (FlagsAgreeAt (.new (.ofCells cells executionCount nextId)))
          fun ended => FlagsAgreeAt (.new (.ofCells cells executionCount nextId)) ended.1 := by
  have agrees : ∀ app,
      Stands (.new (.ofCells cells executionCount nextId)) Edit.Unforced app →
        FlagsAgreeAt (.new (.ofCells cells executionCount nextId)) app := by
    rintro app ⟨later, thread', unforced'⟩
    exact ⟨later, thread', thread'.flagsAgree unused unforced'⟩
  refine ⟨thread.flagsAgree unused unforced, ?_⟩
  rintro app rfl job
  have visits := job_visits job (fun _ _ => trivial) (fun _ => trivial)
    ⟨trace, thread, unforced⟩ (owned_new _)
  exact visits.mono agrees fun ended => agrees ended.1

end

/-- Two cells have the same identifier.  The first one is running, and it stays marked when a third
cell is added and its twin is to be run as well. -/
theorem flags_agree_with_twins :
    ∃ trace app, OneThread (.new (.ofCells [.new "x" .code "1", .new "x" .code "2"] 0 0)) trace
        (.resting app) ∧
      app.notebook.cells.map Cell.isRunning = [true, false, false] ∧
      FlagsAgree (.new (.ofCells [.new "x" .code "1", .new "x" .code "2"] 0 0)) trace
        (.resting app) := by
  have unused : ∀ n, 0 ≤ n →
      freshId n ∉ [Cell.new "x" .code "1", Cell.new "x" .code "2"].map Cell.id := by
    intro n _ used
    have short : ∀ id ∈ [Cell.new "x" .code "1", Cell.new "x" .code "2"].map Cell.id,
        id.length < 36 := by decide
    exact absurd (freshId_length n) (Nat.not_le.2 (short _ used))
  have owned := owned_new (.ofCells [.new "x" .code "1", .new "x" .code "2"] 0 0)
  have fresh : Stands (.new (.ofCells [.new "x" .code "1", .new "x" .code "2"] 0 0))
      Edit.Unforced (.new (.ofCells [.new "x" .code "1", .new "x" .code "2"] 0 0)) :=
    ⟨[], .nil, fun _ member => absurd member List.not_mem_nil⟩
  have waiting := (fresh.enqueue owned "x").advance rfl
  have added := waiting.act owned (.edit (.add .code none)) (by
    intro edit same
    cases same
    exact trivial)
  rcases added.enqueue owned "x" with ⟨trace, thread, unforced⟩
  exact ⟨trace, _, thread, rfl, (flags_agree unused thread unforced).1⟩

end Interleaving
end AsmNotebook
