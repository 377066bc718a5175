import AsmNotebook.Proofs.Json.Canonical
import AsmNotebook.Proofs.Notebook.Identity
import AsmNotebook.Proofs.Session.RoundTrip
import AsmNotebook.Session.Export

namespace AsmNotebook

/-!
# Programs are handed on

Two documents tell of the cells of a notebook: the export, with kinds and
texts alone, and the document of a session, with all that a notebook keeps.
An import walks over either as over any document, and looks only for the two
members that it knows.  What it reads is the canonical tree of what was
written, so it does not matter where in a cell these members stand, or what
stands beside them.

Hence both documents have the same import.  It is written down here without
documents: cells with the kinds and the texts of the others, and everything
else new.
-/

open Json (Plain)

theorem CellKind.parse_name (kind : CellKind) : CellKind.parse kind.name = .ok kind := by
  cases kind <;> rfl

namespace ExportDocument

variable {depth : Nat}

theorem plain (document : ExportDocument) : document.toJson.Plain (depth + 3) := by
  have cells : Plain (depth + 2) (.array (document.cells.map cellJson)) := by
    apply Plain.array
    intro entry member
    rcases List.mem_map.1 member with ⟨cell, _, rfl⟩
    apply Plain.object
    simp [Plain.text]
  unfold toJson
  apply Plain.object
  intro member among
  rcases List.mem_cons.1 among with rfl | stamped
  · exact cells
  · cases stamp : document.stamp with
    | none => simp [stamp] at stamped
    | some stamp =>
      simp only [stamp, List.mem_cons, List.not_mem_nil, or_false] at stamped
      rcases stamped with rfl | rfl | rfl <;> exact .text _

end ExportDocument

/-- An entry of a document tells the kind and the text of a cell. -/
structure Cell.ToldBy (cell : Cell) (entry : Json) : Prop where
  kind : Notebook.importedKind entry = cell.kind
  content : entry.textAt? "content" = some cell.content

/-- An object tells of a cell by two of its members. -/
theorem Cell.toldBy_canonical {cell : Cell} {members : List (String × Json)}
    (distinct : (members.map Prod.fst).Nodup)
    (kind : Json.member? "type" members = some (.text cell.kind.name))
    (content : Json.member? "content" members = some (.text cell.content)) :
    cell.ToldBy (Json.object members).canonical := by
  constructor
  · have named : (Json.object members).canonical.textAt? "type" = some cell.kind.name := by
      rw [Json.textAt?_canonical distinct, Json.textAt?, Json.get?, kind]
      rfl
    simp only [Notebook.importedKind, named, Option.map_some, CellKind.parse_name]
  · rw [Json.textAt?_canonical distinct, Json.textAt?, Json.get?, content]
    rfl

theorem Cell.toldBy_export (cell : Cell) :
    cell.ToldBy (ExportDocument.cellJson (cell.kind, cell.content)).canonical := by
  apply Cell.toldBy_canonical
  · change ["type", "content"].Nodup
    decide
  · rfl
  · rfl

theorem Cell.toldBy_toJson (cell : Cell) : cell.ToldBy cell.toJson.canonical := by
  apply Cell.toldBy_canonical
  · change ["id", "type", "content", "output", "executionCount"].Nodup
    decide
  · rfl
  · rfl

namespace Notebook

/-- Cells with the kinds and the texts of others, identified from a number on. -/
def anew (nextId : Nat) : List Cell → List Cell
  | [] => []
  | cell :: rest => .new (freshId nextId) cell.kind cell.content :: anew (nextId + 1) rest

theorem importedCells_eq {entry : Cell → Json} (told : ∀ cell, Cell.ToldBy cell (entry cell))
    (nextId : Nat) (cells : List Cell) :
    importedCells nextId (cells.map entry) = anew nextId cells := by
  induction cells generalizing nextId with
  | nil => rfl
  | cons cell cells inductionHypothesis =>
    rw [List.map_cons, importedCells, inductionHypothesis, (told cell).kind, (told cell).content]
    rfl

theorem anew_texts (nextId : Nat) (cells : List Cell) :
    (anew nextId cells).map (fun cell => (cell.kind, cell.content)) =
      cells.map fun cell => (cell.kind, cell.content) := by
  induction cells generalizing nextId with
  | nil => rfl
  | cons cell cells inductionHypothesis =>
    simp only [anew, Cell.new, List.map_cons, inductionHypothesis]

theorem ids_anew (nextId : Nat) (cells : List Cell) :
    (anew nextId cells).map Cell.id = given nextId cells.length := by
  induction cells generalizing nextId with
  | nil => rfl
  | cons cell cells inductionHypothesis =>
    exact congrArg (freshId nextId :: ·) (inductionHypothesis (nextId + 1))

theorem anew_unrun {nextId : Nat} {cells : List Cell} {cell : Cell}
    (member : cell ∈ anew nextId cells) :
    cell.output = none ∧ cell.executionCount = none ∧ cell.isRunning = false := by
  induction cells generalizing nextId with
  | nil => cases member
  | cons first cells inductionHypothesis =>
    rcases List.mem_cons.1 member with rfl | later
    · exact ⟨rfl, rfl, rfl⟩
    · exact inductionHypothesis later

variable {source target : Notebook}

/-- The notebook `target` after it took over the kinds and the texts of the cells of `source`. -/
def takeOver (source target : Notebook) : Notebook where
  cells := anew target.nextId source.cells
  executionCount := 0
  nextId := target.nextId + source.cells.length

/-- A text whose entries tell of the cells of a notebook is imported. -/
theorem importText_eq {text : String} {members : List (String × Json)} {entry : Cell → Json}
    (plain : (Json.object members).Plain Json.maxDepth)
    (written : text = (Json.object members).indented ++ "\n")
    (distinct : (members.map Prod.fst).Nodup)
    (cells : Json.member? "cells" members = some (.array (source.cells.map entry)))
    (told : ∀ cell, Cell.ToldBy cell (entry cell).canonical) (filled : source.cells ≠ [])
    (target : Notebook) :
    target.importText text = (source.takeOver target, .ok source.cells.length) := by
  have parsed : Json.parse text = .ok (Json.object members).canonical := by
    rw [written]
    exact Json.parse_indented plain
  have entries : (Json.object members).canonical.get? "cells" =
      some (.array (source.cells.map fun cell => (entry cell).canonical)) := by
    rw [Json.get?_canonical distinct, cells, Option.map_some, Json.canonical,
      Json.canonicalItems_eq_map, List.map_map]
    rfl
  have imported := importedCells_eq told target.nextId source.cells
  simp only [importText, parsed, entries, Option.getD_some, importCells, Json.items?]
  rcases List.exists_cons_of_ne_nil filled with ⟨first, rest, same⟩
  rw [same] at imported ⊢
  simp only [List.map_cons, List.length_cons, List.length_map] at imported ⊢
  rw [imported, takeOver, same]
  rfl

/-- The text of an export is imported, with and without a stamp. -/
theorem importText_export (filled : source.cells ≠ []) (stamp : Option ExportStamp)
    (target : Notebook) :
    target.importText (ExportDocument.ofNotebook stamp source).write =
      (source.takeOver target, .ok source.cells.length) := by
  have plain : (ExportDocument.ofNotebook stamp source).toJson.Plain (124 + 3) :=
    ExportDocument.plain _
  refine importText_eq plain rfl ?_ ?_ Cell.toldBy_export filled target
  · cases stamp with
    | none =>
      change ["cells"].Nodup
      decide
    | some stamp =>
      change ["cells", "version", "timestamp", "appName"].Nodup
      decide
  · change some (Json.array ((source.cells.map _).map ExportDocument.cellJson)) = _
    rw [List.map_map]
    rfl

/-- The text that keeps a notebook between two sessions is imported. -/
theorem importText_save (filled : source.cells ≠ []) (savedAt : String) (target : Notebook) :
    target.importText (source.save savedAt) =
      (source.takeOver target, .ok source.cells.length) := by
  have finds : Json.Format.Finds SessionDocument.format (121 + 6)
      (SessionDocument.ofNotebook savedAt source).toJson
      { SessionDocument.ofNotebook savedAt source with
        cells := source.cells.map Cell.stopped } := SessionDocument.finds _
  refine importText_eq finds.plain rfl ?_ rfl Cell.toldBy_toJson filled target
  change ["schemaVersion", "savedAt", "cells", "globalExecutionCount"].Nodup
  decide

/-- What a notebook has of the one whose cells it took over, and what is new about it. -/
structure TakenOver (source target taken : Notebook) : Prop where
  /-- The kinds and the texts are the same, in the same order. -/
  texts : taken.cells.map (fun cell => (cell.kind, cell.content)) =
    source.cells.map fun cell => (cell.kind, cell.content)
  /-- No cell has been run. -/
  unrun : ∀ cell ∈ taken.cells,
    cell.output = none ∧ cell.executionCount = none ∧ cell.isRunning = false
  count : taken.executionCount = 0
  /-- The identifiers are the next ones of the supply, so no two cells have the same. -/
  given : taken.ids = given target.nextId source.cells.length
  distinct : taken.ids.Nodup
  /-- An identifier that is not one of those still to come is not among them. -/
  fresh : ∀ id, (∀ n, target.nextId ≤ n → freshId n ≠ id) → id ∉ taken.ids
  /-- They will not be given out again. -/
  supply : ∀ n, taken.nextId ≤ n → freshId n ∉ taken.ids

theorem takenOver (source target : Notebook) : TakenOver source target (source.takeOver target) := by
  have ids : (source.takeOver target).ids = given target.nextId source.cells.length :=
    ids_anew target.nextId source.cells
  refine
    { texts := anew_texts target.nextId source.cells
      unrun := fun _ member => anew_unrun member
      count := rfl
      given := ids
      distinct := ?_
      fresh := ?_
      supply := ?_ }
  · rw [ids]
    exact given_nodup _ _
  · intro id unlike
    rw [ids]
    exact not_mem_given unlike
  · intro n beyond
    rw [ids]
    exact freshId_not_mem_given beyond

end Notebook

/-- A program survives being handed on.  Whatever notebook imports the export of a notebook, with or
without a stamp, or the text that keeps it between two sessions, takes over its kinds and texts, and
the result is the same for all these texts. -/
theorem programs_handed_on {source : Notebook} (reachable : source.Reachable) (target : Notebook) :
    ∃ taken, source.TakenOver target taken ∧
      (∀ stamp, target.importText (ExportDocument.ofNotebook stamp source).write =
        (taken, .ok source.cells.length)) ∧
      ∀ savedAt, target.importText (source.save savedAt) = (taken, .ok source.cells.length) := by
  refine ⟨source.takeOver target, Notebook.takenOver source target, ?_, ?_⟩
  · intro stamp
    exact Notebook.importText_export reachable.filled stamp target
  · intro savedAt
    exact Notebook.importText_save reachable.filled savedAt target

/-- Prose with a quote, a letter beyond ASCII and a control character, in a cell that shows a result,
and a command with a character beyond the basic plane, are handed on to a blank notebook. -/
theorem programs_handed_on_with_escapes :
    ∃ source taken, Notebook.Reachable source ∧ source.TakenOver (.blank 7) taken ∧
      taken.cells.map (fun cell => (cell.kind, cell.content)) =
        [(.markdown, "\"Ω\"\n\x01"), (.code, "@ask 🙂")] ∧
      taken.ids = [freshId 8, freshId 9] ∧
      (Notebook.blank 7).importText (ExportDocument.ofNotebook none source).write =
        (taken, .ok 2) ∧
      (Notebook.blank 7).importText (source.save "noon") = (taken, .ok 2) := by
  have reached : ∃ source, Notebook.Reachable source ∧
      source.cells.map (fun cell => (cell.kind, cell.content)) =
        [(.markdown, "\"Ω\"\n\x01"), (.code, "@ask 🙂")] ∧ source.cells.length = 2 :=
    ⟨_, .ofCells [⟨"x", .markdown, "\"Ω\"\n\x01", some .help, some 3, true⟩,
      .new "y" .code "@ask 🙂"] 3 0, rfl, rfl⟩
  rcases reached with ⟨source, reachable, texts, length⟩
  rcases programs_handed_on reachable (.blank 7) with ⟨taken, takenOver, exported, saved⟩
  refine ⟨source, taken, reachable, takenOver, takenOver.texts.trans texts, ?_, ?_, ?_⟩
  · rw [takenOver.given, length]
    rfl
  · rw [exported, length]
  · rw [saved, length]

end AsmNotebook
