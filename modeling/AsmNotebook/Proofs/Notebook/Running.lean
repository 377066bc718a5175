import AsmNotebook.Proofs.Notebook.Identity
import Mathlib.Data.List.Perm.Subperm

namespace AsmNotebook

/-!
# Which cells are marked as running

The mark is set when a run begins and taken away when it ends, each time on
the first cell of an identifier.  Sessions can hold cells with the same
identifier, so it matters that a marked cell is the first one and stays it.
`RunsOnly` says this beside the list of identifiers whose runs are under way.
Edits keep it unless they set the mark by themselves: a new cell could only
get in the way if its identifier were in use, and it comes from the supply.
-/

/-- An edit that does not set the mark of a running cell, or take it away, by itself. -/
def Edit.Unforced : Edit → Prop
  | .update _ change => change.isRunning = none
  | _ => True

namespace Notebook

/-- Marked cells have identifiers of a list, and each is the first cell of its identifier. -/
structure RunsOnly (ids : List String) (cells : List Cell) : Prop where
  known : ∀ cell ∈ cells, cell.isRunning = true → cell.id ∈ ids
  first : cells.Pairwise fun earlier later => later.isRunning = true → earlier.id ≠ later.id

variable {ids ids' : List String} {cells front back : List Cell} {cell : Cell} {id : String}
variable {f : Cell → Cell} {notebook : Notebook}

theorem RunsOnly.mono (runs : RunsOnly ids cells) (more : ids ⊆ ids') : RunsOnly ids' cells where
  known := fun cell member running => more (runs.known cell member running)
  first := runs.first

theorem RunsOnly.sublist (runs : RunsOnly ids cells) {left : List Cell}
    (fewer : left.Sublist cells) : RunsOnly ids left where
  known := fun cell member => runs.known cell (fewer.subset member)
  first := runs.first.sublist fewer

/-- Where no run is under way no cell is marked. -/
theorem RunsOnly.none (runs : RunsOnly [] cells) : ∀ cell ∈ cells, cell.isRunning = false := by
  intro cell member
  cases running : cell.isRunning with
  | false => rfl
  | true => cases runs.known cell member running

theorem runsOnly_of_none (none : ∀ cell ∈ cells, cell.isRunning = false) :
    RunsOnly ids cells where
  known := by
    intro cell member running
    cases (none cell member).symm.trans running
  first := by
    induction cells with
    | nil => exact .nil
    | cons cell rest inductionHypothesis =>
      rw [List.forall_mem_cons] at none
      apply List.Pairwise.cons
      · intro later member running
        cases (none.2 later member).symm.trans running
      · exact inductionHypothesis none.2

/-- No more cells are marked than runs are under way. -/
theorem RunsOnly.countP_le (runs : RunsOnly ids cells) :
    cells.countP Cell.isRunning ≤ ids.length := by
  have distinct : ((cells.filter Cell.isRunning).map Cell.id).Nodup := by
    have marked := runs.first.filter Cell.isRunning
    apply List.pairwise_map.2
    apply marked.imp_of_mem
    intro earlier later _ member apart
    exact apart (List.mem_filter.1 member).2
  have known : (cells.filter Cell.isRunning).map Cell.id ⊆ ids := by
    intro id member
    rcases List.mem_map.1 member with ⟨cell, marked, rfl⟩
    rcases List.mem_filter.1 marked with ⟨there, running⟩
    exact runs.known cell there running
  calc
    cells.countP Cell.isRunning = ((cells.filter Cell.isRunning).map Cell.id).length := by
      rw [List.length_map, List.countP_eq_length_filter]
    _ ≤ ids.length := (distinct.subperm known).length_le

/-! ## Changes of one cell -/

/-- The first cell of an identifier is changed, and from then on only the identifiers of the second
list are under way. -/
theorem RunsOnly.modifyFirst (runs : RunsOnly ids cells) (named : ∀ cell, (f cell).id = cell.id)
    (here : ∀ cell ∈ cells, cell.id = id → (f cell).isRunning = true → id ∈ ids')
    (others : ∀ other ∈ ids, other ≠ id → other ∈ ids') :
    RunsOnly ids' (modifyFirst id f cells) := by
  rcases modifyFirst_cases id f cells with ⟨same, absent⟩ | ⟨front, cell, back, rfl, rfl, new, changed⟩
  · rw [same]
    constructor
    · intro cell member running
      apply others cell.id (runs.known cell member running)
      rintro rfl
      exact absent (List.mem_map_of_mem member)
    · exact runs.first
  · rcases List.pairwise_append.1 runs.first with ⟨inFront, behind, across⟩
    rcases List.pairwise_cons.1 behind with ⟨apart, inBack⟩
    have different : ∀ earlier ∈ front, earlier.id ≠ cell.id := by
      intro earlier member same
      exact new (same ▸ List.mem_map_of_mem member)
    rw [changed]
    constructor
    · intro other member running
      rcases List.mem_append.1 member with earlier | hereOrLater
      · apply others other.id (runs.known other (List.mem_append_left _ earlier) running)
        exact different other earlier
      · rcases List.mem_cons.1 hereOrLater with rfl | later
        · rw [named]
          exact here cell (by simp) rfl running
        · apply others other.id (runs.known other (by simp [later]) running)
          exact (apart other later running).symm
    · refine List.pairwise_append.2 ⟨inFront, List.pairwise_cons.2 ⟨?_, inBack⟩, ?_⟩
      · intro later member running
        rw [named]
        exact apart later member running
      · intro earlier member other member' running
        rcases List.mem_cons.1 member' with rfl | later
        · rw [named]
          exact different earlier member
        · exact across earlier member other (List.mem_cons_of_mem _ later) running

/-- A change that leaves the mark alone. -/
theorem RunsOnly.modify (runs : RunsOnly ids notebook.cells)
    (named : ∀ cell, (f cell).id = cell.id)
    (unmarked : ∀ cell, (f cell).isRunning = cell.isRunning) :
    RunsOnly ids (notebook.modify id f).cells := by
  apply RunsOnly.modifyFirst runs named
  · rintro cell member rfl running
    exact runs.known cell member ((unmarked cell).symm.trans running)
  · intro other known _
    exact known

/-- A change that takes the mark away. -/
theorem RunsOnly.stop (runs : RunsOnly (id :: ids) notebook.cells)
    (named : ∀ cell, (f cell).id = cell.id) (stops : ∀ cell, (f cell).isRunning = false) :
    RunsOnly ids (notebook.modify id f).cells := by
  apply RunsOnly.modifyFirst runs named
  · intro cell _ _ running
    cases (stops cell).symm.trans running
  · intro other known different
    exact List.mem_of_ne_of_mem different known

theorem RunsOnly.begin {source : String} {begun : Notebook} (runs : RunsOnly ids notebook.cells)
    (found : notebook.begin? id = some (begun, source)) : RunsOnly (id :: ids) begun.cells := by
  rcases begin?_eq_some found with ⟨_, _, _, _, rfl⟩
  apply RunsOnly.modifyFirst runs
  · exact fun _ => rfl
  · exact fun _ _ _ _ => List.mem_cons_self
  · exact fun other known _ => List.mem_cons_of_mem id known

theorem RunsOnly.complete (runs : RunsOnly (id :: ids) notebook.cells) (output : Output) :
    RunsOnly ids (notebook.complete id output).1.cells := by
  have counted : RunsOnly (id :: ids)
    { notebook with executionCount := notebook.executionCount + 1 }.cells := runs
  apply counted.stop
  · exact fun _ => rfl
  · exact fun _ => rfl

/-! ## Edits -/

/-- A cell that is not marked and has an identifier of its own gets in the way of no other. -/
theorem RunsOnly.insert (runs : RunsOnly ids cells) (unmarked : cell.isRunning = false)
    (new : cell.id ∉ cells.map Cell.id) (after : Option Nat) :
    RunsOnly ids (insertAfter cell after cells) := by
  rcases insertAfter_eq cell after cells with ⟨front, back, rfl, inserted⟩
  rcases List.pairwise_append.1 runs.first with ⟨inFront, inBack, across⟩
  rw [inserted]
  constructor
  · intro other member running
    rcases List.mem_append.1 member with earlier | hereOrLater
    · exact runs.known other (List.mem_append_left _ earlier) running
    · rcases List.mem_cons.1 hereOrLater with rfl | later
      · cases unmarked.symm.trans running
      · exact runs.known other (List.mem_append_right _ later) running
  · refine List.pairwise_append.2 ⟨inFront, List.pairwise_cons.2 ⟨?_, inBack⟩, ?_⟩
    · intro later member _ same
      exact new (same ▸ List.mem_map_of_mem (List.mem_append_right _ member))
    · intro earlier member other member' running
      rcases List.mem_cons.1 member' with rfl | later
      · cases unmarked.symm.trans running
      · exact across earlier member other later running

theorem RunsOnly.clearOutputs (runs : RunsOnly ids notebook.cells) :
    RunsOnly ids notebook.clearOutputs.cells where
  known := by
    intro cell member running
    rcases List.mem_map.1 member with ⟨old, there, rfl⟩
    exact runs.known old there running
  first := List.pairwise_map.2 runs.first

theorem unmarked_importedCells (nextId : Nat) (entries : List Json) :
    ∀ cell ∈ importedCells nextId entries, cell.isRunning = false := by
  induction entries generalizing nextId with
  | nil => exact fun _ member => absurd member List.not_mem_nil
  | cons entry rest inductionHypothesis =>
    rw [importedCells, List.forall_mem_cons]
    exact ⟨rfl, inductionHypothesis (nextId + 1)⟩

theorem RunsOnly.importCells (runs : RunsOnly ids notebook.cells) (entries : Json) :
    RunsOnly ids (notebook.importCells entries).1.cells := by
  unfold Notebook.importCells
  split
  · exact runs
  · exact runs
  · exact runsOnly_of_none (unmarked_importedCells _ _)

theorem RunsOnly.importText (runs : RunsOnly ids notebook.cells) (text : String) :
    RunsOnly ids (notebook.importText text).1.cells := by
  unfold Notebook.importText
  split
  · exact runs
  · exact runs.importCells _

theorem runsOnly_blank (nextId : Nat) : RunsOnly ids (blank nextId).cells := by
  apply runsOnly_of_none
  intro cell member
  rw [List.mem_singleton.1 member]
  rfl

/-- Cells that a notebook is made of lose their marks. -/
theorem runsOnly_ofCells (cells : List Cell) (executionCount : UInt32) (nextId : Nat) :
    RunsOnly ids (ofCells cells executionCount nextId).cells := by
  unfold ofCells
  split
  · exact runsOnly_blank nextId
  · apply runsOnly_of_none
    intro cell member
    rcases List.mem_map.1 member with ⟨_, _, rfl⟩
    rfl

theorem RunsOnly.delete (runs : RunsOnly ids notebook.cells) (id : String) :
    RunsOnly ids (notebook.delete id).1.cells := by
  unfold Notebook.delete
  split
  · dsimp only
    split
    · exact runsOnly_blank notebook.nextId
    · exact runs.sublist (removeFirst_sublist id notebook.cells)
  · exact runs

theorem explained_isRunning (explanation : String) (cell : Cell) :
    (explained explanation cell).isRunning = cell.isRunning := by
  unfold explained
  split <;> rfl

/-- Edits leave the marks of runs that are under way alone. -/
theorem RunsOnly.edit (runs : RunsOnly ids notebook.cells)
    (unused : ∀ n, notebook.nextId ≤ n → freshId n ∉ notebook.ids) (edit : Edit)
    (unforced : edit.Unforced) : RunsOnly ids (notebook.edit edit).1.cells := by
  cases edit with
  | add kind after =>
    apply runs.insert rfl
    exact unused notebook.nextId (Nat.le_refl _)
  | setContent id content =>
    apply runs.modify
    · exact fun _ => rfl
    · exact fun _ => rfl
  | delete id => exact runs.delete id
  | update id change =>
    have silent : change.isRunning = .none := unforced
    apply runs.modify
    · exact fun _ => rfl
    · intro cell
      rw [CellUpdate.apply, silent]
      rfl
  | clearOutputs => exact runs.clearOutputs
  | clear => exact runsOnly_blank notebook.nextId
  | importCells entries => exact runs.importCells entries
  | importText text => exact runs.importText text
  | attach id explanation =>
    apply runs.modify
    · exact explained_id explanation
    · exact explained_isRunning explanation

end Notebook
end AsmNotebook
