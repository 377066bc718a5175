import AsmNotebook.Output
import AsmNotebook.Text.Blank
import AsmNotebook.Text.LetterCase

namespace AsmNotebook

/-!
Cells of a notebook.
-/

inductive CellKind
  | code
  | markdown
deriving DecidableEq, Repr

namespace CellKind

def name : CellKind → String
  | code => "code"
  | markdown => "markdown"

/-- The kind that a word stands for, in any letter case. -/
def parse (word : String) : Except String CellKind :=
  let lower := Text.lower word
  if lower = "code" then .ok .code
  else if lower = "markdown" ∨ lower = "md" then .ok .markdown
  else .error ("Unknown cell type: " ++ lower)

end CellKind

/-- One piece of a notebook. -/
structure Cell where
  id : String
  kind : CellKind
  content : String
  output : Option Output
  executionCount : Option UInt32
  /-- Whether a run of the cell is under way; never saved. -/
  isRunning : Bool
deriving DecidableEq

namespace Cell

/-- A cell that has not been run. -/
def new (id : String) (kind : CellKind) (content : String) : Cell where
  id := id
  kind := kind
  content := content
  output := none
  executionCount := none
  isRunning := false

/-- Whether the cell holds nothing but white space. -/
def isBlank (cell : Cell) : Bool :=
  (Text.trim cell.content).isEmpty

/-- Whether the cell is code that can be run. -/
def isRunnable (cell : Cell) : Bool :=
  cell.kind == .code && !cell.isBlank

end Cell

end AsmNotebook
