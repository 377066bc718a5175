import AsmNotebook.Proofs.Notebook.Identity

namespace AsmNotebook

/-!
# Cells that an edit keeps

Some edits change cells, and the others only choose among them: they leave a
cell as it is, drop it, or bring in a new one.  `Keeps` says so of an edit of
the second kind.  Identifiers being distinct and never used twice, a cell that
is found after such an edit is the one that was found before.
-/

namespace Notebook

variable {notebook later : Notebook} {id other : String} {cell : Cell}

/-- Where identifiers are distinct, a cell is found by its identifier. -/
theorem find?_eq_some_iff (distinct : notebook.ids.Nodup) :
    notebook.find? id = some cell ↔ cell ∈ notebook.cells ∧ cell.id = id := by
  constructor
  · intro found
    exact ⟨List.mem_of_find?_eq_some found, id_of_find? found⟩
  · rintro ⟨member, rfl⟩
    cases found : notebook.find? cell.id with
    | none =>
      have absent := List.find?_eq_none.1 found cell member
      simp at absent
    | some first =>
      have there := List.mem_of_find?_eq_some found
      exact congrArg some (List.inj_on_of_nodup_map distinct there member (id_of_find? found))

theorem exists_find? (used : id ∈ notebook.ids) : ∃ cell, notebook.find? id = some cell := by
  rcases List.mem_map.1 used with ⟨cell, member, rfl⟩
  exact Option.isSome_iff_exists.1 (List.find?_isSome.2 ⟨cell, member, by simp⟩)

theorem modifyFirst_eq_self {f : Cell → Cell} {cells : List Cell}
    (unchanged : ∀ cell, cells.find? (fun cell => cell.id == id) = some cell → f cell = cell) :
    modifyFirst id f cells = cells := by
  induction cells with
  | nil => rfl
  | cons first rest inductionHypothesis =>
    by_cases here : first.id = id
    · have same : f first = first := unchanged first (List.find?_cons_of_pos (by simpa using here))
      simp only [modifyFirst, if_pos here, same]
    · rw [List.find?_cons_of_neg (by simpa using here)] at unchanged
      simp only [modifyFirst, if_neg here, inductionHypothesis unchanged]

/-- A change that would leave the cell as it is changes nothing. -/
theorem modify_eq_self {f : Cell → Cell}
    (unchanged : ∀ cell, notebook.find? id = some cell → f cell = cell) :
    notebook.modify id f = notebook :=
  congrArg (fun cells => { notebook with cells := cells }) (modifyFirst_eq_self unchanged)

theorem modifyFirst_congr {f g : Cell → Cell} {cells : List Cell}
    (same : ∀ cell, cells.find? (fun cell => cell.id == id) = some cell → f cell = g cell) :
    modifyFirst id f cells = modifyFirst id g cells := by
  induction cells with
  | nil => rfl
  | cons first rest inductionHypothesis =>
    by_cases here : first.id = id
    · have equal : f first = g first := same first (List.find?_cons_of_pos (by simpa using here))
      simp only [modifyFirst, if_pos here, equal]
    · rw [List.find?_cons_of_neg (by simpa using here)] at same
      simp only [modifyFirst, if_neg here, inductionHypothesis same]

/-- Changes that make the same of the cell are the same. -/
theorem modify_congr {f g : Cell → Cell}
    (same : ∀ cell, notebook.find? id = some cell → f cell = g cell) :
    notebook.modify id f = notebook.modify id g :=
  congrArg (fun cells => { notebook with cells := cells }) (modifyFirst_congr same)

theorem modifyFirst_modifyFirst {f : Cell → Cell} (keeps : ∀ cell, (f cell).id = cell.id)
    (g : Cell → Cell) (cells : List Cell) :
    modifyFirst id g (modifyFirst id f cells) = modifyFirst id (g ∘ f) cells := by
  induction cells with
  | nil => rfl
  | cons first rest inductionHypothesis =>
    by_cases here : first.id = id
    · simp [modifyFirst, here, keeps]
    · simp [modifyFirst, here, inductionHypothesis]

/-- Two changes of a cell in a row are one change. -/
theorem modify_modify {f : Cell → Cell} (keeps : ∀ cell, (f cell).id = cell.id) (g : Cell → Cell)
    (notebook : Notebook) :
    (notebook.modify id f).modify id g = notebook.modify id (g ∘ f) :=
  congrArg (fun cells => { notebook with cells := cells })
    (modifyFirst_modifyFirst keeps g notebook.cells)

/-- The cells of a notebook are cells of another one, as they were there, or have identifiers from
its supply. -/
def Keeps (earlier later : Notebook) : Prop :=
  ∀ cell ∈ later.cells, cell ∈ earlier.cells ∨ ∃ n, earlier.nextId ≤ n ∧ freshId n = cell.id

theorem keeps_refl (notebook : Notebook) : Keeps notebook notebook :=
  fun _ member => Or.inl member

/-- A cell that is kept, and was there before, is as it was. -/
theorem Keeps.same_cell (keeps : Keeps notebook later) (identified : notebook.Identified)
    (identified' : later.Identified) {after : Cell} (before : notebook.find? id = some cell)
    (found : later.find? id = some after) : after = cell := by
  rcases (find?_eq_some_iff identified'.distinct).1 found with ⟨member, rfl⟩
  rcases keeps after member with old | ⟨n, ahead, same⟩
  · have again := (find?_eq_some_iff identified.distinct).2 ⟨old, rfl⟩
    exact Option.some.inj (again.symm.trans before)
  · exact absurd (same ▸ mem_ids_of_find? before) (identified.fresh n ahead)

theorem add_keeps (kind : CellKind) (after : Option Nat) (notebook : Notebook) :
    Keeps notebook (notebook.add kind after).1 := by
  intro cell member
  rcases List.mem_append.1 ((insertAfter_perm _ after notebook.cells).mem_iff.1 member) with
    old | new
  · exact Or.inl old
  · have same := congrArg Cell.id (List.mem_singleton.1 new)
    exact Or.inr ⟨notebook.nextId, Nat.le_refl _, same.symm⟩

theorem clear_keeps (notebook : Notebook) : Keeps notebook notebook.clear := by
  intro cell member
  have same := congrArg Cell.id (List.mem_singleton.1 member)
  exact Or.inr ⟨notebook.nextId, Nat.le_refl _, same.symm⟩

theorem delete_keeps (id : String) (notebook : Notebook) :
    Keeps notebook (notebook.delete id).1 := by
  unfold delete
  split
  · dsimp only
    split
    · exact clear_keeps notebook
    · exact fun cell member => Or.inl ((removeFirst_sublist id notebook.cells).subset member)
  · exact keeps_refl notebook

theorem importCells_keeps (entries : Json) (notebook : Notebook) :
    Keeps notebook (notebook.importCells entries).1 := by
  unfold importCells
  split
  · exact keeps_refl notebook
  · exact keeps_refl notebook
  · intro cell member
    have name : cell.id ∈ given notebook.nextId _ :=
      ids_importedCells notebook.nextId _ ▸ List.mem_map_of_mem member
    rcases mem_given.1 name with ⟨n, ahead, _, same⟩
    exact Or.inr ⟨n, ahead, same⟩

theorem importText_keeps (text : String) (notebook : Notebook) :
    Keeps notebook (notebook.importText text).1 := by
  unfold importText
  split
  · exact keeps_refl notebook
  · exact importCells_keeps _ notebook

end Notebook

end AsmNotebook
