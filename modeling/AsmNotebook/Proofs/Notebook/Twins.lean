import AsmNotebook.Proofs.Notebook.Identity
import AsmNotebook.Proofs.Notebook.Reachable
import Mathlib.Data.List.Forall2
import Mathlib.Data.Option.Basic

namespace AsmNotebook

/-!
# Notebooks that differ in the names of new cells

A notebook takes the identifiers of new cells from a numbered supply, and what
becomes of its cells does not depend on where the supply stands.  To say so,
two notebooks are followed side by side.  They start with the same identifiers
and go on with two supplies, neither of which has given out any of them.  From
then on the identifiers of both are paired, and as the pairing is one to one,
an operation finds the same cell on both sides.

Whether a cell is running is left open.  No operation asks for it.
-/

/-- Some identifiers, and the numbers from which two supplies go on.  Neither of them gives out one of
these identifiers again. -/
structure Supplies where
  old : List String
  first : Nat
  second : Nat
  first_unused : ∀ n, first ≤ n → freshId n ∉ old
  second_unused : ∀ n, second ≤ n → freshId n ∉ old

namespace Supplies

variable {supplies : Supplies}

/-- An old identifier stands for itself on both sides, and what the supplies give out is paired in the
order in which it is given out. -/
inductive Twin (supplies : Supplies) : String → String → Prop
  | old {id : String} (used : id ∈ supplies.old) : Twin supplies id id
  | given (count : Nat) :
      Twin supplies (freshId (supplies.first + count)) (freshId (supplies.second + count))

/-- The pairing of identifiers is one to one. -/
theorem Twin.eq_iff {id id' other other' : String} (one : supplies.Twin id id')
    (another : supplies.Twin other other') : id = other ↔ id' = other' := by
  cases one with
  | old used =>
    cases another with
    | old => exact Iff.rfl
    | given count =>
      constructor
      · rintro rfl
        exact absurd used (supplies.first_unused _ (Nat.le_add_right _ _))
      · rintro rfl
        exact absurd used (supplies.second_unused _ (Nat.le_add_right _ _))
  | given count =>
    cases another with
    | old used =>
      constructor
      · rintro rfl
        exact absurd used (supplies.first_unused _ (Nat.le_add_right _ _))
      · rintro rfl
        exact absurd used (supplies.second_unused _ (Nat.le_add_right _ _))
    | given count' =>
      constructor
      · intro same
        rw [Nat.add_left_cancel (freshId_injective same)]
      · intro same
        rw [Nat.add_left_cancel (freshId_injective same)]

/-- Where both supplies go on from the same number, nothing is renamed. -/
theorem Twin.eq_of_same {id id' : String} (twins : supplies.Twin id id')
    (same : supplies.first = supplies.second) : id = id' := by
  cases twins with
  | old => rfl
  | given => rw [same]

/-- Cells that differ at most in their names and in whether they are running. -/
structure TwinCells (supplies : Supplies) (left right : Cell) : Prop where
  id : supplies.Twin left.id right.id
  kind : left.kind = right.kind
  content : left.content = right.content
  output : left.output = right.output
  executionCount : left.executionCount = right.executionCount

theorem TwinCells.new {id id' : String} (twins : supplies.Twin id id') (kind : CellKind)
    (content : String) : supplies.TwinCells (.new id kind content) (.new id' kind content) :=
  ⟨twins, rfl, rfl, rfl, rfl⟩

theorem TwinCells.isBlank {left right : Cell} (twins : supplies.TwinCells left right) :
    left.isBlank = right.isBlank := by
  rw [Cell.isBlank, Cell.isBlank, twins.content]

theorem TwinCells.isRunnable {left right : Cell} (twins : supplies.TwinCells left right) :
    left.isRunnable = right.isRunnable := by
  rw [Cell.isRunnable, Cell.isRunnable, twins.kind, twins.isBlank]

/-- Changes that do the same to cells which differ in their names. -/
def TwinChanges (supplies : Supplies) (f g : Cell → Cell) : Prop :=
  ∀ left right, supplies.TwinCells left right → supplies.TwinCells (f left) (g right)

theorem twinChanges_update (change : CellUpdate) :
    supplies.TwinChanges change.apply change.apply := by
  intro left right twins
  constructor
  · exact twins.id
  · exact congrArg change.kind.getD twins.kind
  · exact congrArg change.content.getD twins.content
  · exact congrArg change.output.getD twins.output
  · exact congrArg change.executionCount.getD twins.executionCount

theorem twinChanges_explained (text : String) :
    supplies.TwinChanges (Notebook.explained text) (Notebook.explained text) := by
  intro left right twins
  unfold Notebook.explained
  rw [twins.output]
  split
  · exact ⟨twins.id, twins.kind, twins.content, rfl, twins.executionCount⟩
  · exact twins

section Lists

variable {left right : List Cell} {id id' : String}

theorem find?_twins (cells : List.Forall₂ supplies.TwinCells left right)
    (twins : supplies.Twin id id') :
    Option.Rel supplies.TwinCells (left.find? fun cell => cell.id == id)
      (right.find? fun cell => cell.id == id') := by
  induction cells with
  | nil => exact .none
  | @cons cell cell' rest rest' same others inductionHypothesis =>
    have named : (cell.id == id) = (cell'.id == id') := by
      rw [Bool.eq_iff_iff, beq_iff_eq, beq_iff_eq]
      exact same.id.eq_iff twins
    rw [List.find?_cons, List.find?_cons, named]
    split
    · exact .some same
    · exact inductionHypothesis

theorem modifyFirst_twins (cells : List.Forall₂ supplies.TwinCells left right)
    (twins : supplies.Twin id id') {f g : Cell → Cell} (changes : supplies.TwinChanges f g) :
    List.Forall₂ supplies.TwinCells (Notebook.modifyFirst id f left)
      (Notebook.modifyFirst id' g right) := by
  induction cells with
  | nil => exact .nil
  | @cons cell cell' rest rest' same others inductionHypothesis =>
    simp only [Notebook.modifyFirst, same.id.eq_iff twins]
    split
    · exact .cons (changes _ _ same) others
    · exact .cons same inductionHypothesis

theorem removeFirst_twins (cells : List.Forall₂ supplies.TwinCells left right)
    (twins : supplies.Twin id id') :
    List.Forall₂ supplies.TwinCells (Notebook.removeFirst id left)
      (Notebook.removeFirst id' right) := by
  induction cells with
  | nil => exact .nil
  | @cons cell cell' rest rest' same others inductionHypothesis =>
    simp only [Notebook.removeFirst, same.id.eq_iff twins]
    split
    · exact others
    · exact .cons same inductionHypothesis

theorem insertAfter_twins (cells : List.Forall₂ supplies.TwinCells left right)
    {cell cell' : Cell} (same : supplies.TwinCells cell cell') (after : Option Nat) :
    List.Forall₂ supplies.TwinCells (Notebook.insertAfter cell after left)
      (Notebook.insertAfter cell' after right) := by
  have appended : List.Forall₂ supplies.TwinCells (left ++ [cell]) (right ++ [cell']) :=
    List.rel_append cells (.cons same .nil)
  cases after with
  | none => exact appended
  | some index =>
    unfold Notebook.insertAfter
    dsimp only
    rw [cells.length_eq]
    split
    · exact List.rel_append (List.forall₂_take _ cells) (.cons same (List.forall₂_drop _ cells))
    · exact appended

theorem getElem?_twins (cells : List.Forall₂ supplies.TwinCells left right) (index : Nat) :
    Option.Rel supplies.TwinCells left[index]? right[index]? := by
  induction cells generalizing index with
  | nil => exact .none
  | cons same _ inductionHypothesis =>
    cases index with
    | zero => exact .some same
    | succ index => exact inductionHypothesis index

theorem isEmpty_twins (cells : List.Forall₂ supplies.TwinCells left right) :
    left.isEmpty = right.isEmpty := by
  cases cells <;> rfl

end Lists

/-- Notebooks that differ at most in the names of cells and in which cells are running. -/
structure Alike (supplies : Supplies) (left right : Notebook) : Prop where
  cells : List.Forall₂ supplies.TwinCells left.cells right.cells
  executionCount : left.executionCount = right.executionCount
  /-- Both supplies have given out equally many identifiers. -/
  given : ∃ count, left.nextId = supplies.first + count ∧ right.nextId = supplies.second + count

variable {left right : Notebook} {id id' : String}

theorem Alike.fresh (alike : supplies.Alike left right) :
    supplies.Twin (freshId left.nextId) (freshId right.nextId) := by
  rcases alike.given with ⟨count, first, second⟩
  rw [first, second]
  exact .given count

/-- One more identifier is given out on both sides. -/
theorem Alike.next (alike : supplies.Alike left right) :
    ∃ count, left.nextId + 1 = supplies.first + count ∧
      right.nextId + 1 = supplies.second + count := by
  rcases alike.given with ⟨count, first, second⟩
  exact ⟨count + 1, by omega, by omega⟩

theorem Alike.find? (alike : supplies.Alike left right) (twins : supplies.Twin id id') :
    Option.Rel supplies.TwinCells (left.find? id) (right.find? id') :=
  find?_twins alike.cells twins

theorem Alike.modify (alike : supplies.Alike left right) (twins : supplies.Twin id id')
    {f g : Cell → Cell} (changes : supplies.TwinChanges f g) :
    supplies.Alike (left.modify id f) (right.modify id' g) where
  cells := modifyFirst_twins alike.cells twins changes
  executionCount := alike.executionCount
  given := alike.given

/-- What the two sides do when their users do the same. -/
inductive TwinEdits (supplies : Supplies) : Edit → Edit → Prop
  | add (kind : CellKind) (after : Option Nat) : TwinEdits supplies (.add kind after) (.add kind after)
  | setContent {id id' : String} (twins : supplies.Twin id id') (content : String) :
      TwinEdits supplies (.setContent id content) (.setContent id' content)
  | delete {id id' : String} (twins : supplies.Twin id id') :
      TwinEdits supplies (.delete id) (.delete id')
  | update {id id' : String} (twins : supplies.Twin id id') (change : CellUpdate) :
      TwinEdits supplies (.update id change) (.update id' change)
  | clearOutputs : TwinEdits supplies .clearOutputs .clearOutputs
  | clear : TwinEdits supplies .clear .clear
  | attach {id id' : String} (twins : supplies.Twin id id') (text : String) :
      TwinEdits supplies (.attach id text) (.attach id' text)

theorem Alike.blank (alike : supplies.Alike left right) {count count' : UInt32}
    (same : count = count') :
    supplies.Alike ⟨[.new (freshId left.nextId) .code ""], count, left.nextId + 1⟩
      ⟨[.new (freshId right.nextId) .code ""], count', right.nextId + 1⟩ where
  cells := .cons (.new alike.fresh .code "") .nil
  executionCount := same
  given := alike.next

theorem Alike.delete (alike : supplies.Alike left right) (twins : supplies.Twin id id') :
    supplies.Alike (left.delete id).1 (right.delete id').1 := by
  have removed := removeFirst_twins alike.cells twins
  have there : left.contains id = right.contains id' := by
    have found := alike.find? twins
    unfold Notebook.contains
    generalize left.find? id = cell, right.find? id' = cell' at found ⊢
    cases found <;> rfl
  unfold Notebook.delete
  dsimp only
  rw [there, isEmpty_twins removed]
  split
  · split
    · exact alike.blank alike.executionCount
    · exact ⟨removed, alike.executionCount, alike.given⟩
  · exact alike

/-- The same edit leaves notebooks that differ in names different in no more than names. -/
theorem Alike.edit {first second : Edit} (alike : supplies.Alike left right)
    (edits : supplies.TwinEdits first second) :
    supplies.Alike (left.edit first).1 (right.edit second).1 := by
  cases edits with
  | add kind after =>
    constructor
    · exact insertAfter_twins alike.cells (.new alike.fresh kind "") after
    · exact alike.executionCount
    · exact alike.next
  | setContent twins content => exact alike.modify twins (twinChanges_update _)
  | delete twins => exact alike.delete twins
  | update twins change => exact alike.modify twins (twinChanges_update change)
  | clearOutputs =>
    constructor
    · refine List.rel_map ?_ alike.cells
      exact fun _ _ twins => ⟨twins.id, twins.kind, twins.content, rfl, twins.executionCount⟩
    · exact alike.executionCount
    · exact alike.given
  | clear => exact alike.blank rfl
  | attach twins text => exact alike.modify twins (twinChanges_explained text)

/-- A run begins on both sides with the same text, or on neither. -/
theorem Alike.begin? (alike : supplies.Alike left right) (twins : supplies.Twin id id') :
    Option.Rel (fun begun begun' => supplies.Alike begun.1 begun'.1 ∧ begun.2 = begun'.2)
      (left.begin? id) (right.begin? id') := by
  have changes : supplies.TwinChanges
      (fun cell => { cell with isRunning := true, output := none })
      (fun cell => { cell with isRunning := true, output := none }) :=
    fun _ _ twins => ⟨twins.id, twins.kind, twins.content, rfl, twins.executionCount⟩
  have found := alike.find? twins
  unfold Notebook.begin?
  generalize left.find? id = cell, right.find? id' = cell' at found ⊢
  cases found with
  | some same =>
    dsimp only
    rw [same.isBlank]
    split
    · exact .none
    · exact .some ⟨alike.modify twins changes, same.content⟩
  | none => exact .none

theorem Alike.complete (alike : supplies.Alike left right) (twins : supplies.Twin id id')
    (output : Output) :
    supplies.Alike (left.complete id output).1 (right.complete id' output).1 := by
  have counted : supplies.Alike { left with executionCount := left.executionCount + 1 }
      { right with executionCount := right.executionCount + 1 } :=
    ⟨alike.cells, congrArg (· + 1) alike.executionCount, alike.given⟩
  unfold Notebook.complete
  rw [alike.executionCount] at counted ⊢
  apply counted.modify twins
  exact fun _ _ twins => ⟨twins.id, twins.kind, twins.content, rfl, rfl⟩

end Supplies

namespace Notebook

/-- A notebook that can arise, and whose supply has not given out what it still has to give. -/
structure Sound (notebook : Notebook) : Prop where
  reachable : notebook.Reachable
  unused : ∀ n, notebook.nextId ≤ n → freshId n ∉ notebook.ids

variable {notebook begun : Notebook} {id source : String}

theorem Sound.edit (sound : notebook.Sound) (edit : Edit) : (notebook.edit edit).1.Sound where
  reachable := sound.reachable.edit edit
  unused := (edit_supplied notebook edit).unused sound.unused

theorem Sound.begin (sound : notebook.Sound) (found : notebook.begin? id = some (begun, source)) :
    begun.Sound where
  reachable := sound.reachable.begin found
  unused := (begin_supplied found).unused sound.unused

theorem Sound.complete (sound : notebook.Sound) (id : String) (output : Output) :
    (notebook.complete id output).1.Sound where
  reachable := sound.reachable.complete id output
  unused := (complete_supplied id output notebook).unused sound.unused

end Notebook
end AsmNotebook
