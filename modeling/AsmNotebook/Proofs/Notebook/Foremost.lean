import AsmNotebook.Proofs.Notebook.Identity

namespace AsmNotebook
namespace Notebook

/-!
# The foremost cell of an identifier

An operation names a cell by its identifier and acts on the first one that is
found.  People name cells by their position.  `Foremost` joins the two: a cell
stands between others, and none before it has its identifier, so whatever is
done in its name happens at this position and nowhere else.
-/

/-- A cell stands between others, and no cell before it has its identifier. -/
structure Foremost (notebook : Notebook) (front : List Cell) (cell : Cell) (back : List Cell) :
    Prop where
  cells : notebook.cells = front ++ cell :: back
  first : cell.id ∉ front.map Cell.id

variable {notebook : Notebook} {front back : List Cell} {cell : Cell} {id : String}

/-- Cells of other identifiers are passed over. -/
theorem modifyFirst_append (absent : id ∉ front.map Cell.id) (f : Cell → Cell)
    (others : List Cell) :
    modifyFirst id f (front ++ others) = front ++ modifyFirst id f others := by
  induction front with
  | nil => rfl
  | cons before front inductionHypothesis =>
    rcases List.ne_and_not_mem_of_not_mem_cons absent with ⟨different, absent⟩
    rw [List.cons_append, modifyFirst, if_neg (Ne.symm different), inductionHypothesis absent]
    rfl

theorem removeFirst_append (absent : id ∉ front.map Cell.id) (others : List Cell) :
    removeFirst id (front ++ others) = front ++ removeFirst id others := by
  induction front with
  | nil => rfl
  | cons before front inductionHypothesis =>
    rcases List.ne_and_not_mem_of_not_mem_cons absent with ⟨different, absent⟩
    rw [List.cons_append, removeFirst, if_neg (Ne.symm different), inductionHypothesis absent]
    rfl

/-- Where identifiers are distinct, every cell is the foremost one of its identifier. -/
theorem foremost_of_distinct (distinct : notebook.ids.Nodup)
    (cells : notebook.cells = front ++ cell :: back) : Foremost notebook front cell back where
  cells := cells
  first := by
    rw [ids, cells, List.map_append] at distinct
    intro before
    exact List.disjoint_of_nodup_append distinct before List.mem_cons_self

/-- Every position leads to the foremost cell of the identifier that is found there. -/
theorem exists_foremost {index : Nat} {named : Cell} (there : notebook.cells[index]? = some named) :
    ∃ front cell back, Foremost notebook front cell back ∧ cell.id = named.id := by
  rcases modifyFirst_cases named.id (fun cell => cell) notebook.cells with
    ⟨_, absent⟩ | ⟨front, cell, back, cells, same, first, _⟩
  · exact absurd (List.mem_map_of_mem (List.mem_of_getElem? there)) absent
  · exact ⟨front, cell, back, ⟨cells, same ▸ first⟩, same⟩

/-- A notebook in which some cells are left.  Where none is left, there is a new blank cell. -/
def leaving (cells : List Cell) (notebook : Notebook) : Notebook :=
  if cells.isEmpty then
    { notebook with
      cells := [.new (freshId notebook.nextId) .code ""]
      nextId := notebook.nextId + 1 }
  else
    { notebook with cells := cells }

namespace Foremost

variable (foremost : Foremost notebook front cell back)
include foremost

theorem find? : notebook.find? cell.id = some cell := by
  have passed : front.find? (fun other => other.id == cell.id) = none := by
    apply List.find?_eq_none.2
    intro other member same
    exact foremost.first (List.mem_map.2 ⟨other, member, beq_iff_eq.1 same⟩)
  rw [Notebook.find?, foremost.cells, List.find?_append, passed]
  simp

theorem modify (f : Cell → Cell) :
    notebook.modify cell.id f = { notebook with cells := front ++ f cell :: back } := by
  rw [Notebook.modify, foremost.cells, modifyFirst_append foremost.first, modifyFirst, if_pos rfl]

/-- A cell that is changed and keeps its identifier stays the foremost one. -/
theorem changed (after : Cell) (named : after.id = cell.id) (executionCount : UInt32)
    (nextId : Nat) :
    Foremost ⟨front ++ after :: back, executionCount, nextId⟩ front after back where
  cells := rfl
  first := named ▸ foremost.first

/-- What is left without the cell. -/
theorem delete : (notebook.delete cell.id).1 = notebook.leaving (front ++ back) := by
  have there : notebook.contains cell.id = true := by
    rw [contains, foremost.find?]
    rfl
  have left : removeFirst cell.id notebook.cells = front ++ back := by
    rw [foremost.cells, removeFirst_append foremost.first, removeFirst, if_pos rfl]
  rw [Notebook.delete, if_pos there, leaving]
  simp only [left]
  split <;> rfl

theorem setContent (content : String) :
    (notebook.setContent cell.id content).1 =
      { notebook with cells := front ++ { cell with content := content } :: back } :=
  foremost.modify _

theorem begin? (readable : cell.isBlank = false) :
    notebook.begin? cell.id =
      some ({ notebook with
          cells := front ++ { cell with isRunning := true, output := none } :: back },
        cell.content) := by
  rw [Notebook.begin?, foremost.find?]
  simp only [readable, foremost.modify, Bool.false_eq_true, if_false]

/-- The cell stands no further back than any cell of its identifier. -/
theorem length_le {index : Nat} {named : Cell} (there : notebook.cells[index]? = some named)
    (same : cell.id = named.id) : front.length ≤ index := by
  by_contra behind
  rw [foremost.cells, List.getElem?_append_left (Nat.lt_of_not_le behind)] at there
  apply foremost.first
  rw [same]
  exact List.mem_map_of_mem (List.mem_of_getElem? there)

/-- The cell is the one at a position exactly if the identifier found there is not found before. -/
theorem length_eq_iff {index : Nat} {named : Cell} (there : notebook.cells[index]? = some named)
    (same : cell.id = named.id) :
    front.length = index ↔ ∀ earlier ∈ notebook.cells.take index, earlier.id ≠ named.id := by
  constructor
  · rintro rfl earlier member
    rw [foremost.cells, List.take_left] at member
    rw [← same]
    intro again
    exact foremost.first (List.mem_map.2 ⟨earlier, member, again⟩)
  · intro first
    by_contra different
    have before : front.length < index :=
      Nat.lt_of_le_of_ne (foremost.length_le there same) different
    apply first cell _ same
    rw [foremost.cells, List.take_append, List.take_of_length_le (Nat.le_of_lt before)]
    apply List.mem_append_right
    rw [← Nat.succ_pred_eq_of_pos (Nat.sub_pos_of_lt before), List.take_succ_cons]
    exact List.mem_cons_self

end Foremost
end Notebook
end AsmNotebook
