import AsmNotebook.Notebook.Edit

namespace AsmNotebook
namespace Notebook

/-!
# Notebooks that can arise

A notebook starts blank or with the cells of a session, and from then on users
edit it while runs begin and end.  Whatever they do, it is never without a
cell: the operation that takes the last one puts a blank one in its place, and
an import without entries is refused.
-/

/-- The notebook can arise by edits and runs. -/
inductive Reachable : Notebook → Prop
  | blank (nextId : Nat) : Reachable (.blank nextId)
  | ofCells (cells : List Cell) (executionCount : UInt32) (nextId : Nat) :
      Reachable (.ofCells cells executionCount nextId)
  | edit {notebook : Notebook} (before : Reachable notebook) (edit : Edit) :
      Reachable (notebook.edit edit).1
  | begin {notebook begun : Notebook} {id source : String} (before : Reachable notebook)
      (found : notebook.begin? id = some (begun, source)) : Reachable begun
  | complete {notebook : Notebook} (before : Reachable notebook) (id : String) (output : Output) :
      Reachable (notebook.complete id output).1

theorem ofCells_filled (cells : List Cell) (executionCount : UInt32) (nextId : Nat) :
    (ofCells cells executionCount nextId).cells ≠ [] := by
  unfold ofCells
  cases cells with
  | nil => exact nofun
  | cons cell rest => exact nofun

variable {notebook : Notebook}

theorem modify_filled (filled : notebook.cells ≠ []) (id : String) (f : Cell → Cell) :
    (notebook.modify id f).cells ≠ [] := by
  rw [← List.length_pos_iff] at filled ⊢
  exact (length_modifyFirst id f notebook.cells).symm ▸ filled

theorem insertAfter_filled (cell : Cell) (after : Option Nat) (cells : List Cell) :
    insertAfter cell after cells ≠ [] := by
  cases after with
  | none => simp [insertAfter]
  | some index =>
    unfold insertAfter
    dsimp only
    split <;> simp

theorem delete_filled (filled : notebook.cells ≠ []) (id : String) :
    (notebook.delete id).1.cells ≠ [] := by
  unfold delete
  split
  · dsimp only
    split
    case isTrue => exact nofun
    case isFalse left => exact fun none => left (List.isEmpty_iff.2 none)
  · exact filled

theorem importCells_filled (filled : notebook.cells ≠ []) (entries : Json) :
    (notebook.importCells entries).1.cells ≠ [] := by
  unfold importCells
  cases entries.items? with
  | none => exact filled
  | some items =>
    cases items with
    | nil => exact filled
    | cons entry rest => exact nofun

theorem importText_filled (filled : notebook.cells ≠ []) (text : String) :
    (notebook.importText text).1.cells ≠ [] := by
  unfold importText
  split
  · exact filled
  · exact importCells_filled filled _

/-- An edit leaves a cell. -/
theorem edit_filled (filled : notebook.cells ≠ []) (edit : Edit) :
    (notebook.edit edit).1.cells ≠ [] := by
  cases edit with
  | add kind after => exact insertAfter_filled _ after notebook.cells
  | setContent id content => exact modify_filled filled id _
  | delete id => exact delete_filled filled id
  | update id change => exact modify_filled filled id _
  | clearOutputs => exact fun none => filled (List.map_eq_nil_iff.1 none)
  | clear => exact nofun
  | importCells entries => exact importCells_filled filled entries
  | importText text => exact importText_filled filled text
  | attach id explanation => exact modify_filled filled id _

/-- A notebook is never without a cell. -/
theorem Reachable.filled (reachable : Reachable notebook) : notebook.cells ≠ [] := by
  induction reachable with
  | blank nextId => exact nofun
  | ofCells cells executionCount nextId => exact ofCells_filled cells executionCount nextId
  | edit _ edit inductionHypothesis => exact edit_filled inductionHypothesis edit
  | begin _ found inductionHypothesis =>
    rcases begin?_eq_some found with ⟨_, _, _, _, rfl⟩
    exact modify_filled inductionHypothesis _ _
  | @complete notebook _ id output inductionHypothesis =>
    have counted : { notebook with
        executionCount := notebook.executionCount + 1 }.cells ≠ [] := inductionHypothesis
    exact modify_filled counted id _

end Notebook
end AsmNotebook
