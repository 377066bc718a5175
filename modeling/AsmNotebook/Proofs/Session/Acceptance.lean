import AsmNotebook.App.Run
import AsmNotebook.Proofs.Json.Canonical
import AsmNotebook.Proofs.Notebook.Identity

namespace AsmNotebook

/-!
# What is imported

An import looks at a text in three steps, and each of them may refuse it: the
text is parsed, the list of cells is looked for, and the list must not be
empty.  `HoldsCells` and `Refused` say which texts pass and where the others
stop, and between them there is no text left.

The entries of a list that passes are not looked at any more closely.  Each of
them is a cell, whatever document it is, and tells its kind and its text if it
has texts in the two places where they belong.  The notebook is replaced as a
whole and only after the last step, so a text that is refused leaves it alone.
-/

variable {text : String} {entries : List Json} {fault : ImportFault}
variable {notebook imported : Notebook}

/-- A text holds an object with a list of entries, at least one, as its cells. -/
def HoldsCells (text : String) (entries : List Json) : Prop :=
  ∃ members, Json.parse text = .ok (.object members) ∧
    Json.member? "cells" members = some (.array entries) ∧ entries ≠ []

/-- The step of an import that refuses a text. -/
inductive Refused (text : String) : ImportFault → Prop
  | notJson {error : Json.Error} (parsed : Json.parse text = .error error) :
      Refused text (.notJson error)
  | notArray {document : Json} (parsed : Json.parse text = .ok document)
      (unlisted : ∀ entries, document.get? "cells" ≠ some (.array entries)) :
      Refused text .notArray
  | noCells {document : Json} (parsed : Json.parse text = .ok document)
      (listed : document.get? "cells" = some (.array [])) :
      Refused text .noCells

/-- Every text passes or is refused. -/
theorem holdsCells_or_refused (text : String) :
    (∃ entries, HoldsCells text entries) ∨ ∃ fault, Refused text fault := by
  cases parsed : Json.parse text with
  | error error => exact Or.inr ⟨_, .notJson parsed⟩
  | ok document =>
    by_cases listed : ∃ entries, document.get? "cells" = some (.array entries)
    · rcases listed with ⟨entries, listed⟩
      cases entries with
      | nil => exact Or.inr ⟨_, .noCells parsed listed⟩
      | cons entry rest =>
        cases document with
        | object members => exact Or.inl ⟨_, members, parsed, listed, List.cons_ne_nil entry rest⟩
        | null | bool | number | text | array => cases listed
    · exact Or.inr ⟨_, .notArray parsed (not_exists.1 listed)⟩

/-- A cell that has the kind and the text of an entry, as far as the entry tells them, and nothing
else. -/
structure Cell.ReadFrom (cell : Cell) (entry : Json) : Prop where
  /-- Prose is what is called so; everything else is code. -/
  markdown : cell.kind = .markdown ↔
    ∃ word, entry.textAt? "type" = some word ∧
      (Text.lower word = "markdown" ∨ Text.lower word = "md")
  content : ∀ text, entry.textAt? "content" = some text → cell.content = text
  /-- Without a text among its members, an entry stands for a blank cell. -/
  blank : entry.textAt? "content" = none → cell.content = ""
  output : cell.output = none
  executionCount : cell.executionCount = none
  isRunning : cell.isRunning = false

theorem CellKind.parse_eq_markdown_iff {word : String} :
    CellKind.parse word = .ok .markdown ↔
      Text.lower word = "markdown" ∨ Text.lower word = "md" := by
  unfold CellKind.parse
  by_cases code : Text.lower word = "code"
  · simp [code]
  · by_cases prose : Text.lower word = "markdown" ∨ Text.lower word = "md"
    · simp [code, prose]
    · simp [code, prose]

namespace Notebook

theorem importedKind_eq_markdown_iff {entry : Json} :
    importedKind entry = .markdown ↔
      ∃ word, entry.textAt? "type" = some word ∧
        (Text.lower word = "markdown" ∨ Text.lower word = "md") := by
  unfold importedKind
  cases told : entry.textAt? "type" with
  | none => simp
  | some word =>
    have parsed := @CellKind.parse_eq_markdown_iff word
    rw [Option.map_some]
    cases kind : CellKind.parse word with
    | error => simp_all
    | ok kind => simp_all

/-- Every entry becomes a cell, in the order of the entries. -/
theorem importedCells_readFrom (nextId : Nat) (entries : List Json) :
    List.Forall₂ Cell.ReadFrom (importedCells nextId entries) entries := by
  induction entries generalizing nextId with
  | nil => exact .nil
  | cons entry entries inductionHypothesis =>
    refine .cons ?_ (inductionHypothesis (nextId + 1))
    refine
      { markdown := importedKind_eq_markdown_iff
        content := ?_
        blank := ?_
        output := rfl
        executionCount := rfl
        isRunning := rfl }
    · intro text told
      change (entry.textAt? "content").getD "" = text
      rw [told, Option.getD_some]
    · intro untold
      change (entry.textAt? "content").getD "" = ""
      rw [untold, Option.getD_none]

/-- A notebook that consists of the entries of a document, and that took its identifiers from the
supply of another notebook. -/
structure ImportedFrom (notebook : Notebook) (entries : List Json) (imported : Notebook) :
    Prop where
  cells : List.Forall₂ Cell.ReadFrom imported.cells entries
  count : imported.executionCount = 0
  given : imported.ids = given notebook.nextId entries.length
  distinct : imported.ids.Nodup
  /-- No cell has an identifier that was in use before. -/
  fresh : notebook.Identified → ∀ id ∈ notebook.ids, id ∉ imported.ids
  /-- No identifier in use will be given out again. -/
  supply : ∀ n, imported.nextId ≤ n → freshId n ∉ imported.ids

/-- The notebook of the entries of a document. -/
def ofEntries (nextId : Nat) (entries : List Json) : Notebook where
  cells := importedCells nextId entries
  executionCount := 0
  nextId := nextId + entries.length

theorem ofEntries_importedFrom (notebook : Notebook) (entries : List Json) :
    ImportedFrom notebook entries (ofEntries notebook.nextId entries) := by
  have ids : (ofEntries notebook.nextId entries).ids =
      Notebook.given notebook.nextId entries.length := ids_importedCells _ _
  refine
    { cells := importedCells_readFrom _ _
      count := rfl
      given := ids
      distinct := ?_
      fresh := ?_
      supply := ?_ }
  · rw [ids]
    exact given_nodup _ _
  · intro identified id used
    rw [ids]
    apply not_mem_given
    rintro n ahead rfl
    exact identified.fresh n ahead used
  · intro n beyond
    rw [ids]
    exact freshId_not_mem_given beyond

theorem importText_of_holdsCells (holds : HoldsCells text entries) (notebook : Notebook) :
    notebook.importText text = (ofEntries notebook.nextId entries, .ok entries.length) := by
  rcases holds with ⟨members, parsed, listed, filled⟩
  have entries_eq : (Json.object members).get? "cells" = some (.array entries) := listed
  rcases List.exists_cons_of_ne_nil filled with ⟨entry, rest, rfl⟩
  simp only [importText, parsed, entries_eq, Option.getD_some, importCells, Json.items?]
  rfl

/-- A text that is refused leaves the notebook as it was. -/
theorem importText_of_refused (refused : Refused text fault) (notebook : Notebook) :
    notebook.importText text = (notebook, .error fault) := by
  cases refused with
  | notJson parsed => simp only [importText, parsed]
  | noCells parsed listed =>
    simp only [importText, parsed, listed, Option.getD_some, importCells, Json.items?]
  | @notArray document parsed unlisted =>
    have items : ((document.get? "cells").getD .null).items? = none := by
      cases found : document.get? "cells" with
      | none => rfl
      | some cells =>
        cases cells with
        | array entries => exact absurd found (unlisted entries)
        | null | bool | number | text | object => rfl
    simp only [importText, parsed, importCells, items]

theorem importText_eq_ok_iff {count : Nat} :
    (notebook.importText text).2 = .ok count ↔
      ∃ entries, HoldsCells text entries ∧ entries.length = count := by
  constructor
  · intro succeeded
    rcases holdsCells_or_refused text with ⟨entries, holds⟩ | ⟨fault, refused⟩
    · rw [importText_of_holdsCells holds] at succeeded
      cases succeeded
      exact ⟨entries, holds, rfl⟩
    · rw [importText_of_refused refused] at succeeded
      cases succeeded
  · rintro ⟨entries, holds, rfl⟩
    rw [importText_of_holdsCells holds]

theorem importText_eq_error_iff :
    (notebook.importText text).2 = .error fault ↔ Refused text fault := by
  constructor
  · intro failed
    rcases holdsCells_or_refused text with ⟨entries, holds⟩ | ⟨fault', refused⟩
    · rw [importText_of_holdsCells holds] at failed
      cases failed
    · rw [importText_of_refused refused] at failed
      cases failed
      exact refused
  · intro refused
    rw [importText_of_refused refused]

end Notebook

/-- Of the members with the same name, the last one counts, for the cells and for what an entry
tells. -/
theorem holdsCells_iff_of_written {members : List (String × Json)}
    (written : Json.readWhole (Json.readValue Json.maxDepth) text = .ok (.object members)) :
    HoldsCells text entries ↔
      (Json.member? "cells" members.reverse).map Json.canonical = some (.array entries) ∧
        entries ≠ [] := by
  have parsed : Json.parse text = .ok (Json.object members).canonical := by
    rw [Json.parse, written]
    rfl
  have found := Json.get?_canonical_last "cells" members
  unfold HoldsCells
  rw [parsed, ← found, Json.canonical]
  constructor
  · rintro ⟨sorted, same, listed, filled⟩
    cases same
    exact ⟨listed, filled⟩
  · rintro ⟨listed, filled⟩
    exact ⟨_, rfl, listed, filled⟩

section File

variable {σ : Type} {world : σ → (query : Query) → σ × query.Reply} {state : σ}
variable {path : String} {app : App}

/-- A file that is read is imported like its text. -/
theorem App.run_importFile_of_read (read : (world state (.errand (.fileText path))).2 = .ok text) :
    (Dialogue.run world state (app.importFile path)).2.1.notebook =
        (app.notebook.importText text).1 ∧
      ∀ count, (Dialogue.run world state (app.importFile path)).2.2 = .ok count ↔
        (app.notebook.importText text).2 = .ok count := by
  simp only [importFile, Dialogue.run, read]
  change _ ∧ ∀ count, _ ↔ (app.edit (.importText text)).2 = .ok count
  have notebook : (app.edit (.importText text)).1.notebook = (app.notebook.importText text).1 := rfl
  rw [← notebook]
  generalize app.edit (.importText text) = edited
  rcases edited with ⟨edited, answer⟩
  refine ⟨?_, fun count => ?_⟩
  · cases answer <;> rfl
  · cases answer <;> simp [Dialogue.run]

theorem App.run_importFile_of_lost {fault : FileFault}
    (lost : (world state (.errand (.fileText path))).2 = .error fault) :
    (Dialogue.run world state (app.importFile path)).2.1.notebook = app.notebook ∧
      ∃ report, (Dialogue.run world state (app.importFile path)).2.2 = .error report := by
  simp only [importFile, Dialogue.run, lost]
  exact ⟨rfl, _, rfl⟩

end File

/-- Everything that becomes of a text that is imported into a notebook. -/
structure DecidedImport (text : String) (notebook : Notebook) : Prop where
  /-- Exactly the texts that hold cells are imported, and all their entries are counted. -/
  accepts : ∀ count, (notebook.importText text).2 = .ok count ↔
    ∃ entries, HoldsCells text entries ∧ entries.length = count
  /-- The entries replace everything that was there. -/
  image : ∀ {entries}, HoldsCells text entries →
    notebook.ImportedFrom entries (notebook.importText text).1
  /-- Every other text is refused by one of the steps. -/
  refuses : ∀ fault, (notebook.importText text).2 = .error fault ↔ Refused text fault
  /-- It changes nothing then. -/
  keeps : ∀ {fault}, (notebook.importText text).2 = .error fault →
    (notebook.importText text).1 = notebook
  /-- Of several lists of cells the last one counts. -/
  last : ∀ {members entries},
    Json.readWhole (Json.readValue Json.maxDepth) text = .ok (.object members) →
      (HoldsCells text entries ↔
        (Json.member? "cells" members.reverse).map Json.canonical = some (.array entries) ∧
          entries ≠ [])
  /-- A file with this text is imported like the text. -/
  read : ∀ {σ : Type} {world : σ → (query : Query) → σ × query.Reply} {state path} {app : App},
    app.notebook = notebook → (world state (.errand (.fileText path))).2 = .ok text →
      (Dialogue.run world state (app.importFile path)).2.1.notebook =
          (notebook.importText text).1 ∧
        ∀ count, (Dialogue.run world state (app.importFile path)).2.2 = .ok count ↔
          (notebook.importText text).2 = .ok count
  /-- A file that cannot be read changes nothing. -/
  lost : ∀ {σ : Type} {world : σ → (query : Query) → σ × query.Reply} {state path fault}
      {app : App},
    app.notebook = notebook → (world state (.errand (.fileText path))).2 = .error fault →
      (Dialogue.run world state (app.importFile path)).2.1.notebook = notebook ∧
        ∃ report, (Dialogue.run world state (app.importFile path)).2.2 = .error report

/-- An import accepts exactly the texts that hold cells, whatever the cells are, and a text that it
refuses changes nothing. -/
theorem import_decided (text : String) (notebook : Notebook) : DecidedImport text notebook := by
  refine
    { accepts := fun _ => Notebook.importText_eq_ok_iff
      image := ?_
      refuses := fun _ => Notebook.importText_eq_error_iff
      keeps := ?_
      last := holdsCells_iff_of_written
      read := ?_
      lost := ?_ }
  · intro entries holds
    rw [Notebook.importText_of_holdsCells holds]
    exact Notebook.ofEntries_importedFrom notebook entries
  · intro fault failed
    rw [Notebook.importText_of_refused (Notebook.importText_eq_error_iff.1 failed)]
  · rintro σ world state path app rfl read
    exact App.run_importFile_of_read read
  · rintro σ world state path fault app rfl lost
    exact App.run_importFile_of_lost lost

end AsmNotebook
