import AsmNotebook.Launch
import AsmNotebook.Proofs.Session.Acceptance
import AsmNotebook.Proofs.Session.Import
import AsmNotebook.Proofs.Upshot

namespace AsmNotebook

/-!
# A file that is run as a whole

A batch imports a file, runs its cells in order and tells how many failed.  It
counts the outcomes of runs and not the cells.  An outcome is a failure only if
the run was completed with one, and a run whose service died was never
completed.  So a batch that ends well has either completed a cell without a
failure or lost it with the service, and its cell has no output then.
-/

open Work (Service Runner follow follow_bind)

variable {σ φ : Type} {serve : Service σ} {errands : Runner φ} {services : σ} {files : φ}
variable {app : App}

/-- A cell that shows a failure. -/
def Cell.isFailed (cell : Cell) : Bool :=
  cell.output.any Output.isFailure

namespace App

end App

namespace Launch

/-- The report that some of the cells failed. -/
def failures (failed all : Nat) : Report where
  text := toString failed ++ " of " ++ toString all ++ " cells failed"
  cause := none

/-- How a batch ends. -/
def ending (json : Bool) : App × Except Report (List (String × RunOutcome)) → Ending
  | (_, .error report) => { shown := "", failure := some report }
  | (app, .ok outcomes) =>
    let failed := (outcomes.filter fun entry => isFailed entry.2).length
    { shown := shownCells json app.notebook.cells
      failure := if 0 < failed then some (failures failed outcomes.length) else none }

section Attempt

variable {path : String} {entries : List Json}

end Attempt

end Launch
end AsmNotebook
