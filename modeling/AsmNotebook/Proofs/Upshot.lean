import AsmNotebook.Proofs.AtRest
import AsmNotebook.Proofs.Interleaving.Calls
import AsmNotebook.Proofs.Lockstep
import AsmNotebook.Proofs.Notebook.Foremost

namespace AsmNotebook

/-!
# What becomes of one cell

Services are a function of what they remember and the call, and they may die
instead of answering.  Where nothing else happens while a call waits, the run
of a cell can be said without a queue and a loop: its text has an upshot, and
the cell where it stands is what that leaves of it.  No other cell changes.
-/

open Work (Service Runner follow follow_bind)

variable {σ φ : Type}

/-- What a text comes to: its output, or nothing if a service dies. -/
def upshot (serve : Service σ) (services : σ) (source : String) : σ × Option Output :=
  match route source with
  | .done output => (services, some output)
  | .call call =>
    let (services, answer) := serve services call
    (services, answer.map fun answer => (conclude call answer).output)

/-- The count of executions after an upshot.  A run that died is not counted. -/
def countAfter (count : UInt32) : Option Output → UInt32
  | some _ => count + 1
  | none => count

/-- A cell after its run. -/
def Cell.after (count : UInt32) (upshot : Option Output) (cell : Cell) : Cell :=
  match upshot with
  | some output =>
    { cell with output := some output, executionCount := some (count + 1), isRunning := false }
  | none => { cell with output := none, isRunning := false }

section After

variable (count : UInt32) (upshot : Option Output) (cell : Cell)

theorem Cell.after_id : (cell.after count upshot).id = cell.id := by
  cases upshot <;> rfl

@[simp] theorem Cell.after_kind : (cell.after count upshot).kind = cell.kind := by
  cases upshot <;> rfl

@[simp] theorem Cell.after_content : (cell.after count upshot).content = cell.content := by
  cases upshot <;> rfl

end After

/-- How a run ends. -/
def RunOutcome.ofUpshot (count : UInt32) : Option Output → RunOutcome
  | some output => .completed (count + 1) output
  | none => .skipped

/-- Cells are run one after another, each where it stands.  Those that are no code or blank are
passed over. -/
def runThrough (serve : Service σ) : σ → UInt32 → List Cell → (σ × UInt32) × List Cell
  | services, count, [] => ((services, count), [])
  | services, count, cell :: rest =>
    if cell.isRunnable then
      let come := upshot serve services cell.content
      let others := runThrough serve come.1 (countAfter count come.2) rest
      (others.1, cell.after count come.2 :: others.2)
    else
      let others := runThrough serve services count rest
      (others.1, cell :: others.2)

section Through

variable {serve : Service σ} {services : σ} {count : UInt32} {cell : Cell} {cells rest : List Cell}

theorem runThrough_of_runnable (serve : Service σ) (services : σ) (count : UInt32)
    (runnable : cell.isRunnable = true) (rest : List Cell) :
    runThrough serve services count (cell :: rest) =
      let come := upshot serve services cell.content
      let others := runThrough serve come.1 (countAfter count come.2) rest
      (others.1, cell.after count come.2 :: others.2) := by
  rw [runThrough, if_pos runnable]

/-- What a run leaves alone is the same in all cells. -/
theorem runThrough_map {α : Type} {f : Cell → α}
    (kept : ∀ count upshot cell, f (Cell.after count upshot cell) = f cell) (serve : Service σ)
    (services : σ) (count : UInt32) (cells : List Cell) :
    (runThrough serve services count cells).2.map f = cells.map f := by
  induction cells generalizing services count with
  | nil => rfl
  | cons cell rest inductionHypothesis =>
    unfold runThrough
    split
    · simp [kept, inductionHypothesis]
    · simp [inductionHypothesis]

/-- Services that answer every call. -/
def Alive (serve : Service σ) : Prop :=
  ∀ services call, (serve services call).2.isSome = true

theorem Alive.exists_upshot (alive : Alive serve) (services : σ) (source : String) :
    ∃ output, (upshot serve services source).2 = some output := by
  unfold upshot
  cases route source with
  | done output => exact ⟨output, rfl⟩
  | call call =>
    rcases Option.isSome_iff_exists.1 (alive services call) with ⟨answer, answered⟩
    exact ⟨(conclude call answer).output, by simp [answered]⟩

/-- Where services answer every call, every cell that can be run is completed, and the counts are
consecutive. -/
theorem Alive.runThrough (alive : Alive serve) (runnable : ∀ cell ∈ cells, cell.isRunnable = true)
    (services : σ) (count : UInt32) :
    (runThrough serve services count cells).1.2 = count + .ofNat cells.length ∧
      ∀ position cell, (runThrough serve services count cells).2[position]? = some cell →
        (∃ output, cell.output = some output) ∧
          cell.executionCount = some (count + .ofNat (position + 1)) ∧ cell.isRunning = false := by
  induction cells generalizing services count with
  | nil =>
    constructor
    · simp [AsmNotebook.runThrough]
    · simp [AsmNotebook.runThrough]
  | cons cell rest inductionHypothesis =>
    rcases alive.exists_upshot services cell.content with ⟨output, come⟩
    have here : cell.isRunnable = true := runnable cell List.mem_cons_self
    have later : ∀ other ∈ rest, other.isRunnable = true :=
      fun other member => runnable other (List.mem_cons_of_mem cell member)
    have next (n : Nat) : count + 1 + UInt32.ofNat n = count + .ofNat (n + 1) := by
      rw [UInt32.ofNat_add, UInt32.ofNat_one, UInt32.add_comm (.ofNat n), UInt32.add_assoc]
    rcases inductionHypothesis later (upshot serve services cell.content).1 (count + 1) with
      ⟨counted, completed⟩
    simp only [runThrough_of_runnable _ _ _ here, come, countAfter]
    refine ⟨counted.trans (next _), ?_⟩
    intro position after there
    cases position with
    | zero =>
      cases there
      exact ⟨⟨output, rfl⟩, rfl, rfl⟩
    | succ position =>
      rw [← next]
      exact completed position after there

end Through

/-- Services that answer in one way, whatever they are asked, and count the calls. -/
def steadyServices : Service Nat := fun count call =>
  (count + 1, some <|
    match call with
    | .execute _ => ⟨.success "executed", none⟩
    | .assemble _ => .success "assembled"
    | .reset => ⟨.success "reset", none⟩
    | .docs _ => .success "documented"
    | .timing _ => .success "timed"
    | .ask _ => .ok "because")

theorem alive_steadyServices : Alive steadyServices :=
  fun _ _ => rfl

namespace App

variable {serve : Service σ} {errands : Runner φ} {services : σ} {files : φ}
variable {app : App} {front back : List Cell} {cell : Cell}

/-- The application with another notebook, which was announced. -/
def withNotebook (notebook : Notebook) (app : App) : App :=
  { app with notebook := notebook }.announce .cellsChanged

theorem AtRest.withNotebook (rests : app.AtRest) (notebook : Notebook) :
    (app.withNotebook notebook).AtRest :=
  ⟨rests.idle, rests.absent, rests.issued⟩

/-- A cell was run where it stands, and nothing else happened. -/
structure RanAt (serve : Service σ) (services : σ) (files : φ) (app : App) (front : List Cell)
    (cell : Cell) (back : List Cell) (ran : (σ × φ) × App × RunOutcome) : Prop where
  world : ran.1 = ((upshot serve services cell.content).1, files)
  rests : ran.2.1.AtRest
  notebook : ran.2.1.notebook =
    { app.notebook with
      cells := front ++ cell.after app.notebook.executionCount
        (upshot serve services cell.content).2 :: back
      executionCount := countAfter app.notebook.executionCount
        (upshot serve services cell.content).2 }
  calls : ran.2.1.calls = app.calls ++ (route cell.content).call?.toList
  outcome : ran.2.2 = .ofUpshot app.notebook.executionCount (upshot serve services cell.content).2

/-- What has ended as the upshot of the text says is a run of the cell. -/
theorem RanAt.of_ended {entry : QueueEntry} {services' : σ} {come : Option Output} {after : App}
    {called : List ServiceCall} (calls : (route cell.content).call?.toList = called)
    (comes : upshot serve services cell.content = (services', come))
    (ended : Ended entry (.ofUpshot app.notebook.executionCount come)
      { app.notebook with
        cells := front ++ cell.after app.notebook.executionCount come :: back
        executionCount := countAfter app.notebook.executionCount come }
      (app.calls ++ called) after) :
    RanAt serve services files app front cell back
      ((services', files), after, .ofUpshot app.notebook.executionCount come) := by
  constructor
  · rw [comes]
  · exact ended.rests
  · rw [comes]
    exact ended.notebook
  · rw [calls]
    exact ended.calls
  · rw [comes]

/-- The cell that was run stands before what follows it. -/
theorem RanAt.cells {ran : (σ × φ) × App × RunOutcome}
    (ranAt : RanAt serve services files app front cell back ran) :
    ran.2.1.notebook.cells = (front ++ [cell.after app.notebook.executionCount
      (upshot serve services cell.content).2]) ++ back := by
  rw [ranAt.notebook, List.append_assoc, List.singleton_append]

/-- A run gives out no identifiers, and takes none away. -/
theorem RanAt.ids {ran : (σ × φ) × App × RunOutcome}
    (ranAt : RanAt serve services files app front cell back ran)
    (whole : app.notebook.cells = front ++ cell :: back) :
    ran.2.1.notebook.ids = app.notebook.ids := by
  rw [Notebook.ids, Notebook.ids, ranAt.cells, whole]
  simp [Cell.after_id]

/-- A call is attended to by the services, and nothing happens meanwhile. -/
theorem follow_attend {α : Type} {waiting : App} {number : Nat} {call : ServiceCall}
    (next : Attendance call → Work α) :
    follow serve errands services files (.ask (.attend ⟨waiting, number, call⟩) next) =
      follow serve errands (serve services call).1 files
        (next (.undisturbed (serve services call).2)) :=
  rfl

section Foremost

variable (foremost : app.notebook.Foremost front cell back)
include foremost

/-- A run that was begun and is completed leaves its output at the cell. -/
theorem complete_begun (output : Output) :
    (Notebook.complete cell.id output
        { app.notebook with
          cells := front ++ { cell with isRunning := true, output := none } :: back }).1 =
      { app.notebook with
        cells := front ++ cell.after app.notebook.executionCount (some output) :: back
        executionCount := app.notebook.executionCount + 1 } := by
  have begun := foremost.changed { cell with isRunning := true, output := none } rfl
    (app.notebook.executionCount + 1) app.notebook.nextId
  exact begun.modify _

/-- A run that was begun and dies leaves the cell without an output. -/
theorem recover_begun :
    (Notebook.edit
        { app.notebook with
          cells := front ++ { cell with isRunning := true, output := none } :: back }
        (.update cell.id recovery)).1 =
      { app.notebook with
        cells := front ++ cell.after app.notebook.executionCount none :: back } := by
  have begun := foremost.changed { cell with isRunning := true, output := none } rfl
    app.notebook.executionCount app.notebook.nextId
  exact begun.modify _

/-- The run of a cell that is not blank, where nothing else happens. -/
theorem run_foremost (rests : app.AtRest) (readable : cell.isBlank = false) (serve : Service σ)
    (errands : Runner φ) (services : σ) (files : φ) :
    RanAt serve services files app front cell back
      (follow serve errands services files (app.run cell.id)) := by
  have begins := foremost.begin? readable
  -- No service is asked, or one is asked and answers, or it dies.
  cases routed : route cell.content with
  | done output =>
    rcases run_of_reply rests begins routed with ⟨after, ran, ended⟩
    have called : (route cell.content).call?.toList = [] := by
      rw [routed]
      rfl
    have comes : upshot serve services cell.content = (services, some output) := by
      rw [upshot, routed]
    rw [complete_begun foremost, ← List.append_nil app.calls] at ended
    rw [ran]
    exact .of_ended called comes ended
  | call call =>
    rcases run_of_call_undisturbed rests begins routed with
      ⟨waiting, number, next, ran, answered, died⟩
    have called : (route cell.content).call?.toList = [call] := by
      rw [routed]
      rfl
    rw [ran]
    cases served : (serve services call).2 with
    | some answer =>
      rcases answered answer with ⟨after, goes, ended⟩
      have comes : upshot serve services cell.content =
          ((serve services call).1, some (conclude call answer).output) := by
        simp only [upshot, routed, served, Option.map_some]
      rw [complete_begun foremost] at ended
      rw [follow_attend, served, goes]
      exact .of_ended called comes ended
    | none =>
      rcases died with ⟨after, goes, ended⟩
      have comes : upshot serve services cell.content = ((serve services call).1, none) := by
        simp only [upshot, routed, served, Option.map_none]
      rw [recover_begun foremost] at ended
      rw [follow_attend, served, goes]
      exact .of_ended called comes ended

end Foremost

end App
end AsmNotebook
