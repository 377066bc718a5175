import AsmNotebook.App.Run

namespace AsmNotebook
namespace Sequential

/-!
# Runs one after another, as a fold

What a list of runs should do can be said without a queue, a loop or waiting:
one cell after the other is executed, and each execution is a function of what
it finds on the desk.  The services are a function too, of what they remember
and the call, so any sequence of answers is possible.

This is the meaning that the application is compared with.  Two facts about it
are proved here.  The counts of completed runs are consecutive, and whether a
cell can be run is not changed by running cells.
-/

/-- How services answer a call, from what they remember. -/
abbrev Responder (σ : Type) : Type :=
  σ → (call : ServiceCall) → σ × call.Answer

/-- What runs of cells change. -/
structure Desk (σ : Type) where
  notebook : Notebook
  processor : Processor
  calls : List ServiceCall
  services : σ

namespace Desk

variable {σ : Type}

/-- What the router returns for a text. -/
def dispatch (respond : Responder σ) (source : String) (desk : Desk σ) : Desk σ × Dispatch :=
  match route source with
  | .done output => (desk, .plain output)
  | .call call =>
    let (services, answer) := respond desk.services call
    ({ desk with calls := desk.calls ++ [call], services := services }, conclude call answer)

/-- Put a result where it belongs. -/
def store (cellId : String) (dispatch : Dispatch) (desk : Desk σ) : Desk σ × RunOutcome :=
  let (notebook, count) := desk.notebook.complete cellId dispatch.output
  let processor :=
    match dispatch.effect with
    | some effect => desk.processor.act effect.action
    | none => desk.processor
  ({ desk with notebook := notebook, processor := processor }, .completed count dispatch.output)

/-- Execute one cell. -/
def execute (respond : Responder σ) (cellId : String) (desk : Desk σ) : Desk σ × RunOutcome :=
  match desk.notebook.begin? cellId with
  | none => (desk, .skipped)
  | some (begun, source) =>
    let (dispatched, dispatch) := { desk with notebook := begun }.dispatch respond source
    dispatched.store cellId dispatch

/-- Execute one more cell. -/
def executeNext (respond : Responder σ) (done : Desk σ × List RunOutcome) (cellId : String) :
    Desk σ × List RunOutcome :=
  let executed := done.1.execute respond cellId
  (executed.1, done.2 ++ [executed.2])

/-- Execute cells from left to right. -/
def executeAll (respond : Responder σ) (cellIds : List String) (desk : Desk σ) :
    Desk σ × List RunOutcome :=
  cellIds.foldl (executeNext respond) (desk, [])

variable (respond : Responder σ)

theorem foldl_executeNext (cellIds : List String) (desk : Desk σ) (outcomes : List RunOutcome) :
    cellIds.foldl (executeNext respond) (desk, outcomes) =
      ((desk.executeAll respond cellIds).1, outcomes ++ (desk.executeAll respond cellIds).2) := by
  unfold executeAll
  induction cellIds generalizing desk outcomes with
  | nil => simp
  | cons cellId rest inductionHypothesis =>
    simp only [List.foldl_cons, executeNext]
    rw [inductionHypothesis, inductionHypothesis _ ([] ++ _)]
    simp

/-- To execute cells is to execute the first one and then the rest. -/
theorem executeAll_cons (cellId : String) (rest : List String) (desk : Desk σ) :
    desk.executeAll respond (cellId :: rest) =
      (((desk.execute respond cellId).1.executeAll respond rest).1,
        (desk.execute respond cellId).2 ::
          ((desk.execute respond cellId).1.executeAll respond rest).2) := by
  simp only [executeAll, List.foldl_cons, executeNext]
  rw [foldl_executeNext]
  rfl

theorem length_executeAll (cellIds : List String) (desk : Desk σ) :
    (desk.executeAll respond cellIds).2.length = cellIds.length := by
  induction cellIds generalizing desk with
  | nil => rfl
  | cons cellId rest inductionHypothesis =>
    rw [executeAll_cons]
    exact congrArg (· + 1) (inductionHypothesis _)

/-- The router does not touch the notebook. -/
theorem notebook_dispatch (source : String) (desk : Desk σ) :
    (desk.dispatch respond source).1.notebook = desk.notebook := by
  unfold dispatch
  split <;> rfl

theorem execute_none {cellId : String} {desk : Desk σ}
    (passed : desk.notebook.begin? cellId = none) :
    desk.execute respond cellId = (desk, .skipped) := by
  simp only [execute, passed]

theorem execute_some {cellId source : String} {desk : Desk σ} {begun : Notebook}
    (found : desk.notebook.begin? cellId = some (begun, source)) :
    desk.execute respond cellId =
      ({ desk with notebook := begun }.dispatch respond source).1.store cellId
        ({ desk with notebook := begun }.dispatch respond source).2 := by
  simp only [execute, found]

/-- An execution that is not passed over completes the cell with the next count. -/
theorem execute_completed {cellId source : String} {desk : Desk σ} {begun : Notebook}
    (found : desk.notebook.begin? cellId = some (begun, source)) :
    ∃ output, (desk.execute respond cellId).1.notebook = (begun.complete cellId output).1 ∧
      (desk.execute respond cellId).2 = .completed (desk.notebook.executionCount + 1) output := by
  rw [execute_some respond found]
  refine ⟨({ desk with notebook := begun }.dispatch respond source).2.output, ?_, ?_⟩
  · simp only [store, notebook_dispatch]
  · rcases Notebook.begin?_eq_some found with ⟨_, _, _, _, rfl⟩
    simp only [store, notebook_dispatch]
    rfl

/-- To execute a cell does not change which cells can be run. -/
theorem isSome_begin?_execute (cellId other : String) (desk : Desk σ) :
    ((desk.execute respond cellId).1.notebook.begin? other).isSome =
      (desk.notebook.begin? other).isSome := by
  cases found : desk.notebook.begin? cellId with
  | none => rw [execute_none respond found]
  | some pair =>
    rcases pair with ⟨begun, source⟩
    rcases execute_completed respond found with ⟨output, notebook, _⟩
    rcases Notebook.begin?_eq_some found with ⟨_, _, _, _, rfl⟩
    rw [notebook, Notebook.isSome_begin?_complete]
    apply Notebook.isSome_begin?_modify
    · exact fun _ => rfl
    · exact fun _ => rfl

end Desk

/-- The count that a completed run was given. -/
def count? : RunOutcome → Option UInt32
  | .completed count _ => some count
  | .skipped => none

/-- Counts from the one after a count on. -/
def countsAfter (count : UInt32) : Nat → List UInt32
  | 0 => []
  | length + 1 => (count + 1) :: countsAfter (count + 1) length

namespace Desk

variable {σ : Type} (respond : Responder σ)

/-- The counts of completed runs are consecutive. -/
theorem counts_executeAll (cellIds : List String) (desk : Desk σ) :
    (desk.executeAll respond cellIds).2.filterMap count? =
      countsAfter desk.notebook.executionCount
        ((desk.executeAll respond cellIds).2.filterMap count?).length := by
  induction cellIds generalizing desk with
  | nil => rfl
  | cons cellId rest inductionHypothesis =>
    have later := inductionHypothesis (desk.execute respond cellId).1
    rw [executeAll_cons]
    cases found : desk.notebook.begin? cellId with
    | none =>
      rw [execute_none respond found] at later ⊢
      exact later
    | some pair =>
      rcases pair with ⟨begun, source⟩
      rcases execute_completed respond found with ⟨output, notebook, outcome⟩
      have advanced : (desk.execute respond cellId).1.notebook.executionCount =
          desk.notebook.executionCount + 1 := by
        rw [notebook]
        rcases Notebook.begin?_eq_some found with ⟨_, _, _, _, rfl⟩
        rfl
      rw [advanced] at later
      rw [outcome]
      exact congrArg (List.cons (desk.notebook.executionCount + 1)) later

end Desk
end Sequential
end AsmNotebook
