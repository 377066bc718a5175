import AsmNotebook.Cell.Basic
import AsmNotebook.Output.Format

namespace AsmNotebook

/-!
Cells in documents.  Whether a cell is running may be read but is not written.
-/

namespace CellKind

def format : Json.Format CellKind :=
  .choice [("code", .code), ("markdown", .markdown)]

end CellKind

namespace Cell

def format : Json.Format Cell :=
  Json.Format.map
    (fun (id, kind, content, output, executionCount, isRunning, ()) =>
      { id := id, kind := kind, content := content, output := output,
        executionCount := executionCount, isRunning := isRunning })
    (.record "Cell"
      (.cons "id" .text none
        (.cons "type" CellKind.format (some .code)
          (.cons "content" .text (some "")
            (.cons "output" (.nullable Output.format) (some none)
              (.cons "executionCount" (.nullable .word32) (some none)
                (.cons "isRunning" .bool (some false) .nil)))))))

/-- A count or null. -/
def countJson (count : Option UInt32) : Json :=
  match count with
  | some count => .number (.integer count.toNat)
  | none => .null

def toJson (cell : Cell) : Json :=
  .object
    [("id", .text cell.id), ("type", .text cell.kind.name), ("content", .text cell.content),
      ("output", match cell.output with | some output => output.toJson | none => .null),
      ("executionCount", countJson cell.executionCount)]

end Cell

end AsmNotebook
