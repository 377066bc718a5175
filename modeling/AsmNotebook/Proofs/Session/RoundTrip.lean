import AsmNotebook.Files.Tree
import AsmNotebook.Proofs.Json.Finds
import AsmNotebook.Proofs.Notebook.Reachable
import AsmNotebook.Session.Document

namespace AsmNotebook

/-!
# Sessions are read back

The text that keeps a notebook is read back as that notebook, with no cell
running.  The rules for formats are put together along the types of outputs,
cells and documents, one case for each output.  What is loaded from a file has
a cell and none running, whatever is in the file, so to save it and load it
again changes nothing.
-/

open Json (optionalMember)
open Json.Format (Finds)
open Json.Fields (Holds)

variable {depth : Nat}

theorem CellKind.finds (kind : CellKind) : Finds CellKind.format depth (.text kind.name) kind := by
  cases kind <;> exact .choice rfl

theorem FailureKind.finds (kind : FailureKind) :
    Finds FailureKind.format depth (.text kind.name) kind := by
  cases kind <;> exact .choice rfl

/-- An optional member that is not written is read as absent. -/
theorem Json.Fields.Holds.optional {α β : Type} {name : String} {format : Json.Format α}
    {rest : Json.Fields β} {encode : α → Json} {value : Option α} {members : List (String × Json)}
    {values : β} (finds : ∀ v, Finds format depth (encode v) v) (present : ∀ v, encode v ≠ .null)
    (others : Holds depth rest members values) :
    Holds depth (.cons name format.nullable (some none) rest)
      (optionalMember name (value.map encode) ++ members) (value, values) := by
  cases value with
  | none => exact .absent others
  | some v => exact .present (.nullable_some (finds v) (present v)) others

theorem Json.Fields.Holds.optionalText {β : Type} {name : String} {rest : Json.Fields β}
    {value : Option String} {members : List (String × Json)} {values : β}
    (others : Holds depth rest members values) :
    Holds depth (.cons name (.nullable .text) (some none) rest)
      (optionalMember name (value.map .text) ++ members) (value, values) :=
  .optional .text nofun others

theorem FailureDetail.finds (detail : FailureDetail) :
    Finds FailureDetail.format (depth + 1) detail.toJson detail := by
  rw [toJson]
  simp only [List.append_assoc]
  rw [← List.append_nil (optionalMember "hint" _)]
  apply Finds.recordOf "ErrorDetail"
  case distinct => decide
  case holds =>
    iterate 6 apply Holds.optionalText
    exact .nil
  case same => rfl

theorem Json.finds_texts (items : List String) :
    Finds (Json.Format.list .text) (depth + 1) (Json.texts items) items :=
  .listOf .text items

theorem Documentation.finds (sections : Documentation) :
    Finds Documentation.format (depth + 2) sections.toJson sections := by
  apply Finds.recordOf "DocSections"
  case distinct => decide
  case holds =>
    apply Holds.present (.text _)
    iterate 4 apply Holds.present (Json.finds_texts _)
    exact .nil
  case same => rfl

theorem Failure.finds (failure : Failure) :
    Finds Output.format (depth + 3) (Output.toJson (.failure failure)) (.failure failure) := by
  rw [Output.toJson, members]
  simp only [List.cons_append, List.append_assoc]
  rw [← List.append_nil (optionalMember "explanation" _)]
  apply Finds.recordVariant
  case chosen => rfl
  case distinct => decide
  case holds =>
    apply Holds.present failure.kind.finds
    apply Holds.optionalText
    apply Holds.present (.text _)
    apply Holds.optional FailureDetail.finds nofun
    exact .optionalText .nil
  case same => rfl

/-- Every output is read back. -/
theorem Output.finds (output : Output) : Finds Output.format (depth + 3) output.toJson output := by
  cases output with
  | success message => exact .fieldsVariant rfl (.present (.text _) .nil) rfl (by decide)
  | failure failure => exact failure.finds
  | warning message => exact .fieldsVariant rfl (.present (.text _) .nil) rfl (by decide)
  | answer text => exact .fieldsVariant rfl (.present (.text _) .nil) rfl (by decide)
  | documentation instruction sections =>
    exact .fieldsVariant rfl (.present (.text _) (.present sections.finds .nil)) rfl (by decide)
  | timing instruction image =>
    exact .fieldsVariant rfl (.present (.text _) (.present (.text _) .nil)) rfl (by decide)
  | listing labels rows =>
    have table : Finds (Json.Format.list (.list .text)) (depth + 2)
        (.array (rows.map Json.texts)) rows := .listOf Json.finds_texts rows
    exact .fieldsVariant rfl (.present (Json.finds_texts labels) (.present table .nil)) rfl
      (by decide)
  | help => exact .tagged rfl nofun nofun rfl

theorem Output.toJson_ne_null (output : Output) : output.toJson ≠ .null := by
  cases output <;> simp [toJson]

namespace Cell

/-- The cell while it is not running. -/
def stopped (cell : Cell) : Cell :=
  { cell with isRunning := false }

theorem finds_count (count : Option UInt32) :
    Finds (Json.Format.nullable .word32) depth (countJson count) count := by
  cases count with
  | none => exact .nullable_none
  | some count => exact .nullable_some (.word32 count) nofun

theorem finds_output (output : Option Output) :
    Finds Output.format.nullable (depth + 3) ((output.map Output.toJson).getD .null) output := by
  cases output with
  | none => exact .nullable_none
  | some output => exact .nullable_some output.finds output.toJson_ne_null

theorem toJson_eq (cell : Cell) : cell.toJson = .object
    [("id", .text cell.id), ("type", .text cell.kind.name), ("content", .text cell.content),
      ("output", (cell.output.map Output.toJson).getD .null),
      ("executionCount", countJson cell.executionCount)] := by
  unfold toJson
  cases cell.output <;> rfl

/-- A cell is read back without its running flag, which is not written. -/
theorem finds (cell : Cell) : Finds Cell.format (depth + 4) cell.toJson cell.stopped := by
  rw [toJson_eq]
  apply Finds.recordOf "Cell"
  case distinct => decide
  case holds =>
    apply Holds.present (.text cell.id)
    apply Holds.present cell.kind.finds
    apply Holds.present (.text cell.content)
    apply Holds.present (finds_output cell.output)
    apply Holds.present (finds_count cell.executionCount)
    exact .absent .nil
  case same => rfl

end Cell

/-- The document of a session is read back, with no cell running. -/
theorem SessionDocument.finds (document : SessionDocument) :
    Finds SessionDocument.format (depth + 6) document.toJson
      { document with cells := document.cells.map Cell.stopped } := by
  have cells : Finds (Json.Format.list Cell.format) (depth + 5)
      (.array (document.cells.map Cell.toJson)) (document.cells.map Cell.stopped) :=
    .list fun cell _ => cell.finds
  apply Finds.recordOf "SessionDocument"
  case distinct => decide
  case holds =>
    apply Holds.present (.word32 document.schemaVersion)
    apply Holds.present (.text document.savedAt)
    apply Holds.present cells
    exact .present (.word32 document.executionCount) .nil
  case same => rfl

namespace Notebook

variable {notebook : Notebook}

/-- The notebook loaded from the bytes of a file, or without a file. -/
def ofFile (nextId : Nat) (contents : Option (List UInt8)) : Notebook :=
  load nextId (contents.bind fun bytes => (Text.decode bytes).toOption)

/-- What is saved of a notebook is loaded again, with no cell running. -/
theorem load_save (filled : notebook.cells ≠ []) (savedAt : String) (nextId : Nat) :
    load nextId (some (notebook.save savedAt)) =
      { notebook with cells := notebook.cells.map Cell.stopped, nextId := nextId } := by
  have finds : Finds SessionDocument.format (121 + 6)
      (SessionDocument.ofNotebook savedAt notebook).toJson
      { SessionDocument.ofNotebook savedAt notebook with
        cells := notebook.cells.map Cell.stopped } := SessionDocument.finds _
  have parsed := Json.readWhole_indented finds.plain finds.read
  change SessionDocument.format.parse (notebook.save savedAt) = _ at parsed
  have present : (notebook.cells.map Cell.stopped).isEmpty = false := by
    rw [List.isEmpty_eq_false_iff]
    exact fun none => filled (List.map_eq_nil_iff.1 none)
  have stopped : (notebook.cells.map Cell.stopped).map Cell.stopped =
      notebook.cells.map Cell.stopped := List.map_map
  simp only [load, parsed, SessionDocument.toNotebook, ofCells, present, Bool.false_eq_true,
    if_false]
  change { notebook with
    cells := (notebook.cells.map Cell.stopped).map Cell.stopped, nextId := nextId } = _
  rw [stopped]

/-- Whatever a text holds, the notebook loaded from it is a blank one or has the cells of a
document. -/
theorem load_reachable (nextId : Nat) (text : Option String) : Reachable (load nextId text) := by
  unfold load
  cases text with
  | none => exact .blank nextId
  | some text =>
    dsimp only
    split
    · exact .ofCells _ _ nextId
    · exact .blank nextId

/-- No cell of a notebook that was loaded is running. -/
theorem load_stopped (nextId : Nat) (text : Option String) :
    (load nextId text).cells.map Cell.stopped = (load nextId text).cells := by
  have blank : ∀ nextId, (blank nextId).cells.map Cell.stopped = (Notebook.blank nextId).cells :=
    fun _ => rfl
  unfold load
  cases text with
  | none => exact blank nextId
  | some text =>
    dsimp only
    split
    · unfold SessionDocument.toNotebook ofCells
      split
      · exact blank nextId
      · exact List.map_map
    · exact blank nextId

end Notebook

/-- What becomes of the contents of a file and of a notebook between two sessions. -/
structure SessionsLossless (contents : Option (List UInt8)) (notebook : Notebook) : Prop where
  /-- Whatever a file holds, or without a file, the notebook loaded from it has a cell. -/
  filled : ∀ nextId, (Notebook.ofFile nextId contents).cells ≠ []
  /-- None of its cells is running. -/
  stopped : ∀ nextId, ∀ cell ∈ (Notebook.ofFile nextId contents).cells, cell.isRunning = false
  /-- To save it and load the saved text gives it back, with the supply of identifiers that the
  next session has. -/
  again : ∀ nextId savedAt supply,
    let loaded := Notebook.ofFile nextId contents
    Notebook.load supply (some (loaded.save savedAt)) = { loaded with nextId := supply }
  /-- So it does with the notebook, but that no cell is running. -/
  saved : ∀ savedAt supply, Notebook.load supply (some (notebook.save savedAt)) =
    { notebook with
      cells := notebook.cells.map fun cell => { cell with isRunning := false }
      nextId := supply }

/-- A session loses nothing of a notebook that can arise, and makes a notebook of every file. -/
theorem sessions_lossless (contents : Option (List UInt8)) {notebook : Notebook}
    (reachable : notebook.Reachable) : SessionsLossless contents notebook where
  filled := fun nextId => (Notebook.load_reachable nextId _).filled
  stopped := by
    intro nextId cell member
    unfold Notebook.ofFile at member
    rw [← Notebook.load_stopped] at member
    rcases List.mem_map.1 member with ⟨cell, _, rfl⟩
    rfl
  again := by
    intro nextId savedAt supply
    have stopped := Notebook.load_stopped nextId
      (contents.bind fun bytes => (Text.decode bytes).toOption)
    refine (Notebook.load_save (Notebook.load_reachable nextId _).filled savedAt supply).trans ?_
    rw [Notebook.ofFile, stopped]
  saved := Notebook.load_save reachable.filled

/-- A notebook whose first cell shows a failure with all its parts and whose second cell is running,
beside a file that is no document. -/
theorem sessions_lossless_running_cell :
    ∃ notebook, Notebook.Reachable notebook ∧
      notebook.cells.map Cell.isRunning = [false, true] ∧
      notebook.cells.map Cell.output =
        [some (.failure ⟨.domain, some "Fault", "\"MVI\"\n", some ⟨none, some "MVI", none, none,
          some "1", none⟩, some "Ω"⟩), none] ∧
      SessionsLossless (some [0x7b, 0xff]) notebook := by
  have reached : ∃ notebook, Notebook.Reachable notebook ∧
      notebook.cells.map Cell.isRunning = [false, true] ∧
      notebook.cells.map Cell.output =
        [some (.failure ⟨.domain, some "Fault", "\"MVI\"\n", some ⟨none, some "MVI", none, none,
          some "1", none⟩, some "Ω"⟩), none] :=
    ⟨_, @Notebook.Reachable.begin _ _ "y" _ (.ofCells
      [⟨"x", .code, "MVI", some (.failure ⟨.domain, some "Fault", "\"MVI\"\n", some ⟨none,
          some "MVI", none, none, some "1", none⟩, some "Ω"⟩), some 1, true⟩,
        ⟨"y", .code, "HLT", some .help, some 4, false⟩] 4 0) rfl, rfl, rfl⟩
  rcases reached with ⟨notebook, reachable, running, outputs⟩
  exact ⟨notebook, reachable, running, outputs, sessions_lossless _ reachable⟩

end AsmNotebook
