import AsmNotebook.Proofs.Notebook.Kept

namespace AsmNotebook

/-!
# Kinds of cells

A cell has the kind that it was made with, unless an update gives it another
one.  Identifiers are never used twice, so as long as no kind is changed
everything that is ever found under an identifier is of one kind.
-/

/-- Whether an edit leaves the kinds of cells alone. -/
def Edit.KeepsKinds : Edit → Prop
  | .update _ change => change.kind = none
  | _ => True

namespace Notebook

variable {notebook later begun : Notebook} {id other source : String} {kind : CellKind}
variable {cell : Cell} {f : Cell → Cell}

/-- What is found under an identifier is of a kind, and the supply does not give it to other cells. -/
structure HasKind (id : String) (kind : CellKind) (notebook : Notebook) : Prop where
  kind : ∀ cell ∈ notebook.cells, cell.id = id → cell.kind = kind
  given : ∀ n, notebook.nextId ≤ n → freshId n ≠ id

theorem hasKind_of_find? (identified : notebook.Identified) (found : notebook.find? id = some cell) :
    HasKind id cell.kind notebook where
  kind := by
    intro cell' member same
    have again := (find?_eq_some_iff identified.distinct).2 ⟨member, same⟩
    cases found.symm.trans again
    rfl
  given := by
    rintro n ahead rfl
    exact identified.fresh n ahead (mem_ids_of_find? found)

namespace HasKind

theorem of_find? (has : HasKind id kind notebook) (found : notebook.find? id = some cell) :
    cell.kind = kind :=
  has.kind cell (List.mem_of_find?_eq_some found) (id_of_find? found)

/-- Cells that are chosen or new are of the kinds that they were. -/
theorem of_keeps (has : HasKind id kind notebook) (keeps : Keeps notebook later)
    (supply : notebook.nextId ≤ later.nextId) : HasKind id kind later where
  kind := by
    intro cell member same
    rcases keeps cell member with old | ⟨n, ahead, new⟩
    · exact has.kind cell old same
    · exact absurd (new.trans same) (has.given n ahead)
  given := fun n ahead => has.given n (Nat.le_trans supply ahead)

theorem of_map (has : HasKind id kind notebook)
    (cells : ∀ cell ∈ later.cells, ∃ before ∈ notebook.cells,
      before.id = cell.id ∧ before.kind = cell.kind)
    (supply : later.nextId = notebook.nextId) : HasKind id kind later where
  kind := by
    intro cell member same
    rcases cells cell member with ⟨before, there, named, like⟩
    rw [← like]
    exact has.kind before there (named.trans same)
  given := supply ▸ has.given

theorem modify (has : HasKind id kind notebook) (other : String)
    (named : ∀ cell, (f cell).id = cell.id) (like : ∀ cell, (f cell).kind = cell.kind) :
    HasKind id kind (notebook.modify other f) := by
  refine has.of_map ?_ rfl
  intro cell member
  change cell ∈ modifyFirst other f notebook.cells at member
  rcases modifyFirst_cases other f notebook.cells with
    ⟨same, _⟩ | ⟨front, first, back, whole, _, _, changed⟩
  · exact ⟨cell, same ▸ member, rfl, rfl⟩
  · rw [changed] at member
    rw [whole]
    rcases List.mem_append.1 member with inFront | hereOrBehind
    · exact ⟨cell, List.mem_append_left _ inFront, rfl, rfl⟩
    · rcases List.mem_cons.1 hereOrBehind with rfl | behind
      · exact ⟨first, by simp, (named first).symm, (like first).symm⟩
      · exact ⟨cell, by simp [behind], rfl, rfl⟩

theorem edit (has : HasKind id kind notebook) (edit : Edit) (keeps : edit.KeepsKinds) :
    HasKind id kind (notebook.edit edit).1 := by
  have supply := (edit_supplied notebook edit).nextId_le
  cases edit with
  | add => exact has.of_keeps (add_keeps _ _ _) supply
  | delete => exact has.of_keeps (delete_keeps _ _) supply
  | clear => exact has.of_keeps (clear_keeps _) supply
  | importCells => exact has.of_keeps (importCells_keeps _ _) supply
  | importText => exact has.of_keeps (importText_keeps _ _) supply
  | setContent => exact has.modify _ (fun _ => rfl) (fun _ => rfl)
  | update id change =>
    have silent : change.kind = none := keeps
    apply has.modify
    · exact fun _ => rfl
    · intro cell
      rw [CellUpdate.apply, silent]
      rfl
  | attach id explanation =>
    apply has.modify
    · exact explained_id explanation
    · intro cell
      unfold explained
      split <;> rfl
  | clearOutputs =>
    refine has.of_map ?_ rfl
    intro cell member
    rcases List.mem_map.1 member with ⟨before, there, rfl⟩
    exact ⟨before, there, rfl, rfl⟩

theorem begin (has : HasKind id kind notebook)
    (found : notebook.begin? other = some (begun, source)) : HasKind id kind begun := by
  rcases begin?_eq_some found with ⟨_, _, _, _, rfl⟩
  exact has.modify other (fun _ => rfl) (fun _ => rfl)

theorem complete (has : HasKind id kind notebook) (other : String) (output : Output) :
    HasKind id kind (notebook.complete other output).1 := by
  have counted : HasKind id kind
      { notebook with executionCount := notebook.executionCount + 1 } := ⟨has.kind, has.given⟩
  exact counted.modify other (fun _ => rfl) (fun _ => rfl)

end HasKind
end Notebook
end AsmNotebook
