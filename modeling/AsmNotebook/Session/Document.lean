import AsmNotebook.Cell.Format
import AsmNotebook.Json.Printer
import AsmNotebook.Notebook.Basic

namespace AsmNotebook

/-!
The document that keeps a notebook between two sessions: all its cells with
their outputs, and the count of executions.  A text that is no such document
stands for a fresh notebook.
-/

structure SessionDocument where
  schemaVersion : UInt32
  /-- When the document was written. -/
  savedAt : String
  cells : List Cell
  executionCount : UInt32
deriving DecidableEq

namespace SessionDocument

def currentVersion : UInt32 :=
  1

def format : Json.Format SessionDocument :=
  Json.Format.map
    (fun (schemaVersion, savedAt, cells, executionCount, ()) =>
      { schemaVersion := schemaVersion, savedAt := savedAt, cells := cells,
        executionCount := executionCount })
    (.record "SessionDocument"
      (.cons "schemaVersion" .word32 (some currentVersion)
        (.cons "savedAt" .text (some "")
          (.cons "cells" (.list Cell.format) none
            (.cons "globalExecutionCount" .word32 (some 0) .nil)))))

/-- The document of a notebook. -/
def ofNotebook (savedAt : String) (notebook : Notebook) : SessionDocument where
  schemaVersion := currentVersion
  savedAt := savedAt
  cells := notebook.cells
  executionCount := notebook.executionCount

/-- The notebook of a document, whose new cells are identified from a number on. -/
def toNotebook (nextId : Nat) (document : SessionDocument) : Notebook :=
  .ofCells document.cells document.executionCount nextId

def toJson (document : SessionDocument) : Json :=
  .object
    [("schemaVersion", .number (.integer document.schemaVersion.toNat)),
      ("savedAt", .text document.savedAt), ("cells", .array (document.cells.map Cell.toJson)),
      ("globalExecutionCount", .number (.integer document.executionCount.toNat))]

/-- The text of a document. -/
def write (document : SessionDocument) : String :=
  document.toJson.indented ++ "\n"

end SessionDocument

namespace Notebook

/-- The text that keeps a notebook. -/
def save (savedAt : String) (notebook : Notebook) : String :=
  (SessionDocument.ofNotebook savedAt notebook).write

/-- The notebook that a text keeps, or a fresh one if there is no text or none that can be read. -/
def load (nextId : Nat) (text : Option String) : Notebook :=
  match text with
  | none => blank nextId
  | some text =>
    match SessionDocument.format.parse text with
    | .ok document => document.toNotebook nextId
    | .error _ => blank nextId

end Notebook

end AsmNotebook
