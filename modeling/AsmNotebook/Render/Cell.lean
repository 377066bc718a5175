import AsmNotebook.Cell.Basic
import AsmNotebook.Render.Output

namespace AsmNotebook
namespace Render

/-!
Cells as plain text: the table of all cells, and one cell with its output.
-/

/-- Characters of a first line that the table of cells shows. -/
def previewWidth : Nat :=
  48

/-- The beginning of a text, marked where something is left out. -/
def preview (content : String) : String :=
  let lines := Text.lines content
  let first := (Text.trim (lines.head?.getD "")).toList
  let shown := String.ofList (first.take previewWidth)
  if 1 < lines.length ∨ previewWidth < first.length then shown ++ " ..." else shown

def status (cell : Cell) : String :=
  if cell.isRunning then "running"
  else
    match cell.output with
    | none => ""
    | some (.failure _) => "error"
    | some (.warning _) => "warning"
    | some _ => "ok"

/-- The count of a cell's last run, or what stands for none. -/
def countOr (missing : String) (cell : Cell) : String :=
  match cell.executionCount with
  | some count => toString count.toNat
  | none => missing

/-- The row of a cell; the position counts from zero and is shown counting from one. -/
def cellRow (position : Nat) (cell : Cell) : List String :=
  let execution :=
    match cell.executionCount with
    | some count => "[" ++ toString count.toNat ++ "]"
    | none => ""
  [toString (position + 1), cell.kind.name, execution, status cell, preview cell.content]

/-- The rows of cells from a position on. -/
def cellRows (position : Nat) : List Cell → List (List String)
  | [] => []
  | cell :: rest => cellRow position cell :: cellRows (position + 1) rest

/-- One row a cell. -/
def cellTable (cells : List Cell) : String :=
  table (["#", "TYPE", "EXEC", "STATUS", "SOURCE"] :: cellRows 0 cells)

/-- A cell with its text and, if it is code, its output. -/
def cell (position : Nat) (c : Cell) : String :=
  let count := countOr " " c
  let shown :=
    match c.output with
    | some result =>
      if c.kind = .code then line ("Out[" ++ count ++ "]:") ++ output result else ""
    | none => ""
  line ("In [" ++ count ++ "] #" ++ toString (position + 1) ++ " (" ++ c.kind.name ++ ")") ++
    String.join ((Text.lines c.content).map fun text => line ("    " ++ text)) ++ shown

end Render
end AsmNotebook
