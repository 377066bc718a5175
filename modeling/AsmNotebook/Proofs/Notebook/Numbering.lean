import AsmNotebook.Proofs.Notebook.Identity

namespace AsmNotebook

/-!
# Counts of executions on cells

A completed run leaves its count on the cell.  The counts on the cells of a
notebook stay distinct because they never pass the count of the notebook and
a completion takes the next one.  All other operations either drop counts
from cells and leave the count of the notebook as it is, or start over with
cells that have none; `Renumbered` says this of every edit at once.
-/

namespace Edit

/-- Whether there is an entry to import. -/
def hasEntries (entries : Json) : Bool :=
  entries.items?.any fun items => !items.isEmpty

/-- Whether an edit starts the count of executions over: it clears the notebook, or imports at least
one cell. -/
def restarts : Edit → Bool
  | clear => true
  | importCells entries => hasEntries entries
  | importText text =>
    match Json.parse text with
    | .error _ => false
    | .ok document => hasEntries ((document.get? "cells").getD .null)
  | _ => false

/-- Whether an edit sets the count of a cell by hand. -/
def setsCount : Edit → Bool
  | update _ change => change.executionCount.isSome
  | _ => false

end Edit

namespace Notebook

/-- Counts on the cells, in order. -/
def counts (notebook : Notebook) : List UInt32 :=
  notebook.cells.filterMap Cell.executionCount

/-- The counts on the cells are distinct, and none is beyond the count of the notebook. -/
structure Numbered (notebook : Notebook) : Prop where
  distinct : notebook.counts.Nodup
  bounded : ∀ count ∈ notebook.counts, count ≤ notebook.executionCount

/-- Cells lost counts at most, or all counts were given up. -/
def Renumbered (earlier later : Notebook) : Prop :=
  later.executionCount = earlier.executionCount ∧ later.counts.Sublist earlier.counts ∨
    later.executionCount = 0 ∧ later.counts = []

variable {earlier later notebook : Notebook}

theorem Numbered.renumbered (numbered : Numbered earlier) (renumbered : Renumbered earlier later) :
    Numbered later := by
  rcases renumbered with ⟨same, fewer⟩ | ⟨_, none⟩
  · refine ⟨fewer.nodup numbered.distinct, fun count member => ?_⟩
    rw [same]
    exact numbered.bounded count (fewer.subset member)
  · constructor
    · simp [none]
    · simp [none]

theorem Renumbered.of_same (same : later.counts = earlier.counts)
    (count : later.executionCount = earlier.executionCount) : Renumbered earlier later :=
  Or.inl ⟨count, same ▸ List.Sublist.refl _⟩

theorem renumbered_refl (notebook : Notebook) : Renumbered notebook notebook :=
  .of_same rfl rfl

theorem counts_modify (id : String) {f : Cell → Cell}
    (keeps : ∀ cell, (f cell).executionCount = cell.executionCount) (notebook : Notebook) :
    (notebook.modify id f).counts = notebook.counts := by
  unfold counts modify
  dsimp only
  induction notebook.cells with
  | nil => rfl
  | cons cell rest inductionHypothesis =>
    by_cases here : cell.id = id
    · simp [modifyFirst, here, List.filterMap_cons, keeps]
    · simp [modifyFirst, here, List.filterMap_cons, inductionHypothesis]

theorem modify_renumbered (id : String) {f : Cell → Cell}
    (keeps : ∀ cell, (f cell).executionCount = cell.executionCount) (notebook : Notebook) :
    Renumbered notebook (notebook.modify id f) :=
  .of_same (counts_modify id keeps notebook) rfl

theorem add_renumbered (kind : CellKind) (after : Option Nat) (notebook : Notebook) :
    Renumbered notebook (notebook.add kind after).1 := by
  refine .of_same ?_ rfl
  have uncounted : Cell.executionCount (.new (freshId notebook.nextId) kind "") = none := rfl
  unfold counts add insertAfter
  cases after with
  | none => simp [uncounted]
  | some index =>
    dsimp only
    split
    · rw [List.filterMap_append, List.filterMap_cons_none uncounted, ← List.filterMap_append,
        List.take_append_drop]
    · simp [uncounted]

theorem delete_renumbered (id : String) (notebook : Notebook) :
    Renumbered notebook (notebook.delete id).1 := by
  unfold delete
  split
  · dsimp only
    split
    · exact Or.inl ⟨rfl, List.nil_sublist _⟩
    · exact Or.inl ⟨rfl, (removeFirst_sublist id notebook.cells).filterMap _⟩
  · exact renumbered_refl notebook

theorem counts_importedCells (nextId : Nat) (entries : List Json) :
    (importedCells nextId entries).filterMap Cell.executionCount = [] := by
  induction entries generalizing nextId with
  | nil => rfl
  | cons entry rest inductionHypothesis => exact inductionHypothesis (nextId + 1)

theorem importCells_renumbered (entries : Json) (notebook : Notebook) :
    Renumbered notebook (notebook.importCells entries).1 := by
  unfold importCells
  split
  · exact renumbered_refl notebook
  · exact renumbered_refl notebook
  · exact Or.inr ⟨rfl, counts_importedCells _ _⟩

theorem importText_renumbered (text : String) (notebook : Notebook) :
    Renumbered notebook (notebook.importText text).1 := by
  unfold importText
  split
  · exact renumbered_refl notebook
  · exact importCells_renumbered _ notebook

theorem explained_executionCount (explanation : String) (cell : Cell) :
    (explained explanation cell).executionCount = cell.executionCount := by
  unfold explained
  split <;> rfl

/-- An edit that sets no count by hand drops counts at most, or gives up all of them. -/
theorem edit_renumbered (notebook : Notebook) {edit : Edit} (unset : edit.setsCount = false) :
    Renumbered notebook (notebook.edit edit).1 := by
  cases edit with
  | add kind after => exact add_renumbered kind after notebook
  | setContent id content =>
    apply modify_renumbered id
    exact fun _ => rfl
  | delete id => exact delete_renumbered id notebook
  | update id change =>
    have kept : change.executionCount = none := by simpa [Edit.setsCount] using unset
    apply modify_renumbered id
    intro cell
    simp [CellUpdate.apply, kept]
  | clearOutputs =>
    refine .of_same ?_ rfl
    exact List.filterMap_map
  | clear => exact Or.inr ⟨rfl, rfl⟩
  | importCells entries => exact importCells_renumbered entries notebook
  | importText text => exact importText_renumbered text notebook
  | attach id explanation =>
    apply modify_renumbered id
    exact explained_executionCount explanation

theorem begin_renumbered {id source : String} {begun : Notebook}
    (found : notebook.begin? id = some (begun, source)) : Renumbered notebook begun := by
  rcases begin?_eq_some found with ⟨_, _, _, _, rfl⟩
  apply modify_renumbered id
  exact fun _ => rfl

/-- A completion takes a count that no cell has. -/
theorem Numbered.complete (numbered : Numbered notebook)
    (room : notebook.executionCount.toNat + 1 < UInt32.size) (id : String) (output : Output) :
    Numbered (notebook.complete id output).1 := by
  have next : (notebook.executionCount + 1).toNat = notebook.executionCount.toNat + 1 := by
    rw [UInt32.toNat_add]
    exact Nat.mod_eq_of_lt room
  have below : ∀ count ∈ notebook.counts, count < notebook.executionCount + 1 := by
    intro count member
    have bounded := UInt32.le_iff_toNat_le.1 (numbered.bounded count member)
    rw [UInt32.lt_iff_toNat_lt, next]
    omega
  have within : ∀ count ∈ notebook.counts, count ≤ notebook.executionCount + 1 := by
    intro count member
    exact UInt32.le_of_lt (below count member)
  have changed := modifyFirst_cases id (fun cell =>
    { cell with
      output := some output
      executionCount := some (notebook.executionCount + 1)
      isRunning := false }) notebook.cells
  rcases changed with ⟨same, _⟩ | ⟨front, cell, back, whole, _, _, changed⟩
  · have counts_eq : (notebook.complete id output).1.counts = notebook.counts :=
      congrArg (List.filterMap Cell.executionCount) same
    refine ⟨counts_eq ▸ numbered.distinct, fun count member => ?_⟩
    exact within count (counts_eq ▸ member)
  · have counts_eq : (notebook.complete id output).1.counts =
        front.filterMap Cell.executionCount ++ (notebook.executionCount + 1) ::
          back.filterMap Cell.executionCount := by
      refine (congrArg (List.filterMap Cell.executionCount) changed).trans ?_
      rw [List.filterMap_append]
      rfl
    -- The counts of the other cells were there before.
    have others : (front.filterMap Cell.executionCount ++
        back.filterMap Cell.executionCount).Sublist notebook.counts := by
      rw [counts, whole, List.filterMap_append]
      exact List.Sublist.append_left ((List.sublist_cons_self cell back).filterMap _) _
    constructor
    · rw [counts_eq, List.nodup_middle, List.nodup_cons]
      refine ⟨fun member => ?_, others.nodup numbered.distinct⟩
      exact absurd (below _ (others.subset member)) (UInt32.lt_irrefl _)
    · intro count member
      rw [counts_eq, List.mem_append, List.mem_cons] at member
      rcases member with front_count | same | back_count
      · exact within count (others.subset (List.mem_append_left _ front_count))
      · exact same ▸ UInt32.le_refl _
      · exact within count (others.subset (List.mem_append_right _ back_count))

/-- An import succeeds where there is an entry, and starts the count over then. -/
theorem importCells_cases (entries : Json) (notebook : Notebook) :
    (Edit.hasEntries entries = true ∧ (∃ count, (notebook.importCells entries).2 = .ok count) ∧
        (notebook.importCells entries).1.executionCount = 0) ∨
      (Edit.hasEntries entries = false ∧
        (∃ fault, (notebook.importCells entries).2 = .error fault) ∧
        (notebook.importCells entries).1 = notebook) := by
  unfold importCells Edit.hasEntries
  cases entries.items? with
  | none => exact Or.inr ⟨rfl, ⟨_, rfl⟩, rfl⟩
  | some items =>
    cases items with
    | nil => exact Or.inr ⟨rfl, ⟨_, rfl⟩, rfl⟩
    | cons entry rest => exact Or.inl ⟨rfl, ⟨_, rfl⟩, rfl⟩

theorem importText_cases (text : String) (notebook : Notebook) :
    ((Edit.importText text).restarts = true ∧ (∃ count, (notebook.importText text).2 = .ok count) ∧
        (notebook.importText text).1.executionCount = 0) ∨
      ((Edit.importText text).restarts = false ∧
        (∃ fault, (notebook.importText text).2 = .error fault) ∧
        (notebook.importText text).1 = notebook) := by
  cases parsed : Json.parse text with
  | error error =>
    refine Or.inr ⟨?_, ⟨.notJson error, ?_⟩, ?_⟩ <;> simp only [importText, Edit.restarts, parsed]
  | ok document =>
    simp only [importText, Edit.restarts, parsed]
    exact importCells_cases _ notebook

/-- An edit that restarts the count is a clear or an import that succeeds, whatever the notebook. -/
theorem restarts_iff (notebook : Notebook) (edit : Edit) :
    edit.restarts = true ↔
      edit = .clear ∨
        (∃ entries count, edit = .importCells entries ∧
          (notebook.importCells entries).2 = .ok count) ∨
        ∃ text count, edit = .importText text ∧ (notebook.importText text).2 = .ok count := by
  cases edit with
  | clear => simp [Edit.restarts]
  | importCells entries =>
    rcases importCells_cases entries notebook with ⟨some_entry, ⟨count, imported⟩, _⟩ |
      ⟨no_entry, ⟨fault, refused⟩, _⟩
    · simp [Edit.restarts, some_entry, imported]
    · simp [Edit.restarts, no_entry, refused]
  | importText text =>
    rcases importText_cases text notebook with ⟨restarts, ⟨count, imported⟩, _⟩ |
      ⟨stays, ⟨fault, refused⟩, _⟩
    · simp [restarts, imported]
    · simp [stays, refused]
  | add | setContent | delete | update | clearOutputs | attach => simp [Edit.restarts]

/-- An edit starts the count over or leaves it. -/
theorem executionCount_edit (notebook : Notebook) (edit : Edit) :
    (notebook.edit edit).1.executionCount =
      if edit.restarts then 0 else notebook.executionCount := by
  cases edit with
  | delete id =>
    change (notebook.delete id).1.executionCount = notebook.executionCount
    unfold delete
    split
    · dsimp only
      split <;> rfl
    · rfl
  | importCells entries =>
    change (notebook.importCells entries).1.executionCount =
      if Edit.hasEntries entries then 0 else notebook.executionCount
    rcases importCells_cases entries notebook with ⟨some_entry, _, zero⟩ | ⟨no_entry, _, same⟩
    · rw [some_entry, zero, if_pos rfl]
    · rw [no_entry, same]
      rfl
  | importText text =>
    change (notebook.importText text).1.executionCount = _
    rcases importText_cases text notebook with ⟨restarts, _, zero⟩ | ⟨stays, _, same⟩
    · rw [restarts, zero, if_pos rfl]
    · rw [stays, same]
      rfl
  | add | setContent | update | clearOutputs | clear | attach => rfl

end Notebook
end AsmNotebook
