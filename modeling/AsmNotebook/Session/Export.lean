import AsmNotebook.Json.Printer
import AsmNotebook.Notebook.Basic

namespace AsmNotebook

/-!
The document a notebook is handed on in: kinds and texts of its cells, without
outputs and counts, and on request what wrote it and when.
-/

/-- When an export was written. -/
structure ExportStamp where
  timestamp : String
deriving DecidableEq, Repr

structure ExportDocument where
  cells : List (CellKind × String)
  stamp : Option ExportStamp
deriving DecidableEq, Repr

namespace ExportDocument

def formatVersion : String :=
  "1.0.0"

def appName : String :=
  "ASM Studio"

/-- The document of a notebook. -/
def ofNotebook (stamp : Option ExportStamp) (notebook : Notebook) : ExportDocument where
  cells := notebook.cells.map fun cell => (cell.kind, cell.content)
  stamp := stamp

def cellJson (cell : CellKind × String) : Json :=
  .object [("type", .text cell.1.name), ("content", .text cell.2)]

def toJson (document : ExportDocument) : Json :=
  .object
    (("cells", .array (document.cells.map cellJson)) ::
      match document.stamp with
      | some stamp =>
        [("version", .text formatVersion), ("timestamp", .text stamp.timestamp),
          ("appName", .text appName)]
      | none => [])

/-- The text of a document. -/
def write (document : ExportDocument) : String :=
  document.toJson.indented ++ "\n"

/-- The name of a file for an export of a day. -/
def defaultFileName (date : String) : String :=
  "asm-session-" ++ date ++ ".json"

end ExportDocument

end AsmNotebook
