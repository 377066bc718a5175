import AsmNotebook.Proofs.Notebook.Kept
import AsmNotebook.Proofs.Session.RoundTrip

namespace AsmNotebook

/-!
# Cells are told apart

A cell is looked up by its identifier, and the first one found is taken.  So
an operation on one cell leaves all others alone only as long as no two cells
have the same identifier, and this has to be kept by everything that is ever
done to a notebook: edits, runs, and being saved and loaded again.

`Framed` says what an operation on a cell can do to a notebook, and
`Notebook.unfound` what it does where there is no such cell.
-/

/-- Everything that is done to a notebook. -/
inductive Operation
  | edit (edit : Edit)
  | begin (id : String)
  | complete (id : String) (output : Output)
  /-- The notebook is saved and loaded again, and some identifiers have gone elsewhere meanwhile. -/
  | reload (savedAt : String) (gone : Nat)

namespace Operation

/-- What an operation returns. -/
abbrev Result : Operation → Type
  | edit e => e.Result
  | begin _ => Option String
  | complete _ _ => UInt32
  | reload _ _ => Unit

/-- The identifier of the cell that an operation is on. -/
def cell? : Operation → Option String
  | edit (.setContent id _) => some id
  | edit (.delete id) => some id
  | edit (.update id _) => some id
  | edit (.attach id _) => some id
  | begin id => some id
  | complete id _ => some id
  | _ => none

end Operation

namespace Notebook

/-- Begin a run of a cell if it can begin; the result is the text to run. -/
def beginIfAny (id : String) (notebook : Notebook) : Notebook × Option String :=
  match notebook.begin? id with
  | some (begun, source) => (begun, some source)
  | none => (notebook, none)

/-- The notebook after an operation, and what the operation returns. -/
def operate (notebook : Notebook) : (operation : Operation) → Notebook × operation.Result
  | .edit edit => notebook.edit edit
  | .begin id => notebook.beginIfAny id
  | .complete id output => notebook.complete id output
  | .reload savedAt gone => (load (notebook.nextId + gone) (some (notebook.save savedAt)), ())

/-- The notebook after operations one after another. -/
def operateAll (operations : List Operation) (notebook : Notebook) : Notebook :=
  operations.foldl (fun notebook operation => (notebook.operate operation).1) notebook

/-- An operation on a cell that is not there fails, and the notebook stays as it is.  But the end of a
run is counted even so. -/
def unfound (notebook : Notebook) : (operation : Operation) → Notebook × operation.Result
  | .edit (.setContent _ _) => (notebook, false)
  | .edit (.delete _) => (notebook, false)
  | .edit (.update _ _) => (notebook, false)
  | .edit (.attach _ _) => (notebook, false)
  | .begin _ => (notebook, none)
  | .complete _ _ =>
    ({ notebook with executionCount := notebook.executionCount + 1 }, notebook.executionCount + 1)
  | operation => notebook.operate operation

variable {notebook before after : Notebook} {operation : Operation} {id : String}

theorem beginIfAny_cases (id : String) (notebook : Notebook) :
    (notebook.beginIfAny id).1 = notebook ∨
      (notebook.beginIfAny id).1 =
        notebook.modify id fun cell => { cell with isRunning := true, output := none } := by
  unfold beginIfAny
  cases found : notebook.begin? id with
  | none => exact Or.inl rfl
  | some pair =>
    rcases begin?_eq_some found with ⟨_, _, _, _, begun⟩
    exact Or.inr begun

/-- A notebook that was saved and loaded again has no cell running, and is the same otherwise. -/
theorem operate_reload (filled : notebook.cells ≠ []) (savedAt : String) (gone : Nat) :
    (notebook.operate (.reload savedAt gone)).1 =
      { notebook with
        cells := notebook.cells.map Cell.stopped
        nextId := notebook.nextId + gone } := by
  have loaded := load_save filled savedAt (notebook.nextId + gone)
  simp only [operate, loaded]

/-! ## What every operation keeps -/

theorem operate_filled (filled : notebook.cells ≠ []) (operation : Operation) :
    (notebook.operate operation).1.cells ≠ [] := by
  cases operation with
  | edit edit => exact edit_filled filled edit
  | begin id =>
    change (notebook.beginIfAny id).1.cells ≠ []
    rcases beginIfAny_cases id notebook with same | begun
    · rw [same]
      exact filled
    · rw [begun]
      exact modify_filled filled id _
  | complete id output =>
    apply modify_filled
    exact filled
  | reload savedAt gone =>
    rw [operate_reload filled]
    intro none
    exact filled (List.map_eq_nil_iff.1 none)

theorem Identified.operate (identified : notebook.Identified) (filled : notebook.cells ≠ [])
    (operation : Operation) : (notebook.operate operation).1.Identified := by
  cases operation with
  | edit edit => exact identified.supplied (edit_supplied notebook edit)
  | begin id =>
    change (notebook.beginIfAny id).1.Identified
    rcases beginIfAny_cases id notebook with same | begun
    · rw [same]
      exact identified
    · rw [begun]
      apply identified.supplied
      apply modify_supplied
      exact fun _ => rfl
  | complete id output => exact identified.supplied (complete_supplied id output notebook)
  | reload savedAt gone =>
    rw [operate_reload filled]
    have ids : (notebook.cells.map Cell.stopped).map Cell.id = notebook.ids := List.map_map
    constructor
    · change ((notebook.cells.map Cell.stopped).map Cell.id).Nodup
      rw [ids]
      exact identified.distinct
    · intro n ahead
      change freshId n ∉ (notebook.cells.map Cell.stopped).map Cell.id
      rw [ids]
      exact identified.fresh n (Nat.le_trans (Nat.le_add_right _ _) ahead)

/-! ## What an operation on a cell changes -/

/-- From one notebook to the next nothing happens but to the cell of an identifier. -/
inductive Framed (id : String) (before after : Notebook) : Prop
  /-- The cell is changed where it stands, if it is there. -/
  | changed (f : Cell → Cell) (named : ∀ cell, (f cell).id = cell.id)
      (cells : after.cells = before.cells.map fun cell => if cell.id = id then f cell else cell)
  /-- The cell is gone. -/
  | removed (cells : after.cells = before.cells.filter fun cell => cell.id ≠ id)
  /-- The cell is gone, and as it was the only one there is a blank one in its place, which is new. -/
  | replaced (only : before.ids = [id])
      (cells : after.cells = [.new (freshId before.nextId) .code ""])

theorem framed_refl (id : String) (notebook : Notebook) : Framed id notebook notebook := by
  apply Framed.changed (fun cell => cell) (fun _ => rfl)
  simp

/-- Where identifiers are distinct, the first cell of an identifier is the only one to remove. -/
theorem removeFirst_eq_filter {cells : List Cell} (distinct : (cells.map Cell.id).Nodup)
    (id : String) : removeFirst id cells = cells.filter fun cell => cell.id ≠ id := by
  induction cells with
  | nil => rfl
  | cons cell rest inductionHypothesis =>
    rcases List.nodup_cons.1 distinct with ⟨new, distinct⟩
    by_cases here : cell.id = id
    · have others : rest.filter (fun cell => cell.id ≠ id) = rest := by
        apply List.filter_eq_self.2
        intro other later
        apply decide_eq_true
        rintro same
        exact new (List.mem_map.2 ⟨other, later, same.trans here.symm⟩)
      rw [removeFirst, if_pos here, List.filter_cons_of_neg (by simpa using here)]
      exact others.symm
    · rw [removeFirst, if_neg here, List.filter_cons_of_pos (by simpa using here),
        inductionHypothesis distinct]

/-- A cell that is there, and without which there would be none, is the only one. -/
theorem ids_eq_singleton (distinct : notebook.ids.Nodup) (used : id ∈ notebook.ids)
    (none : notebook.cells.filter (fun cell => cell.id ≠ id) = []) : notebook.ids = [id] := by
  have same : ∀ other ∈ notebook.ids, other = id := by
    intro other member
    rcases List.mem_map.1 member with ⟨cell, there, rfl⟩
    by_contra different
    exact List.filter_eq_nil_iff.1 none cell there (decide_eq_true different)
  have all := List.eq_replicate_of_mem same
  have one : notebook.ids.length ≤ 1 := by
    rw [all] at distinct
    exact List.nodup_replicate.1 distinct
  have some := List.length_pos_of_mem used
  rw [all, Nat.le_antisymm one some]
  rfl

theorem delete_framed (distinct : notebook.ids.Nodup) (id : String) :
    Framed id notebook (notebook.delete id).1 := by
  have left := removeFirst_eq_filter distinct id
  unfold delete
  split
  case isFalse => exact framed_refl id notebook
  case isTrue there =>
    rcases Option.isSome_iff_exists.1 there with ⟨cell, found⟩
    dsimp only
    split
    case isTrue none =>
      apply Framed.replaced
      · apply ids_eq_singleton distinct (mem_ids_of_find? found)
        rw [← left]
        exact List.isEmpty_iff.1 none
      · rfl
    case isFalse => exact .removed left

/-- An operation on a cell deletes it or changes the first cell of its identifier. -/
theorem operate_cases (named : operation.cell? = some id) :
    operation = .edit (.delete id) ∨
      ∃ f : Cell → Cell, (∀ cell, (f cell).id = cell.id) ∧
        (notebook.operate operation).1.cells = modifyFirst id f notebook.cells := by
  cases operation with
  | edit edit =>
    cases edit with
    | setContent other content =>
      cases named
      refine Or.inr ⟨_, ?_, rfl⟩
      exact fun _ => rfl
    | update other change =>
      cases named
      refine Or.inr ⟨_, ?_, rfl⟩
      exact fun _ => rfl
    | attach other explanation =>
      cases named
      exact Or.inr ⟨_, explained_id explanation, rfl⟩
    | delete other =>
      cases named
      exact Or.inl rfl
    | add | clearOutputs | clear | importCells | importText => cases named
  | begin other =>
    cases named
    apply Or.inr
    rcases beginIfAny_cases id notebook with same | begun
    · refine ⟨fun cell => cell, fun _ => rfl, ?_⟩
      rw [modifyFirst_eq_self fun _ _ => rfl]
      exact congrArg cells same
    · refine ⟨_, ?_, congrArg cells begun⟩
      exact fun _ => rfl
  | complete other output =>
    cases named
    refine Or.inr ⟨_, ?_, rfl⟩
    exact fun _ => rfl
  | reload => cases named

/-- An operation on a cell leaves the others alone. -/
theorem operate_framed (distinct : notebook.ids.Nodup) (named : operation.cell? = some id) :
    Framed id notebook (notebook.operate operation).1 := by
  rcases operate_cases named with rfl | ⟨f, keeps, changed⟩
  · exact delete_framed distinct id
  · exact .changed f keeps (changed.trans (modifyFirst_eq_map id f distinct))

/-- Only a deletion takes a cell away. -/
theorem operate_ids (named : operation.cell? = some id)
    (other : operation ≠ .edit (.delete id)) : (notebook.operate operation).1.ids = notebook.ids := by
  rcases operate_cases named with same | ⟨f, keeps, changed⟩
  · exact absurd same other
  · rw [ids, changed]
    exact ids_modifyFirst id keeps notebook.cells

theorem find?_eq_none_of_absent (absent : id ∉ notebook.ids) : notebook.find? id = none := by
  cases found : notebook.find? id with
  | none => rfl
  | some cell => exact absurd (mem_ids_of_find? found) absent

theorem modify_of_absent (absent : id ∉ notebook.ids) (f : Cell → Cell) :
    notebook.modify id f = notebook := by
  apply modify_eq_self
  intro cell found
  exact absurd (mem_ids_of_find? found) absent

/-- An operation on a cell that is not there fails. -/
theorem operate_of_absent (named : operation.cell? = some id) (absent : id ∉ notebook.ids) :
    notebook.operate operation = notebook.unfound operation := by
  have none := find?_eq_none_of_absent absent
  have uncontained : notebook.contains id = false := by
    rw [contains, none]
    rfl
  have unchanged : ∀ change : CellUpdate, notebook.update id change = (notebook, false) := by
    intro change
    rw [update, modify_of_absent absent, uncontained]
  cases operation with
  | edit edit =>
    cases edit with
    | setContent other content =>
      cases named
      exact unchanged _
    | update other change =>
      cases named
      exact unchanged change
    | attach other explanation =>
      cases named
      change notebook.attach id explanation = (notebook, false)
      rw [attach, modify_of_absent absent, none]
      rfl
    | delete other =>
      cases named
      change notebook.delete id = (notebook, false)
      rw [delete, uncontained]
      rfl
    | add | clearOutputs | clear | importCells | importText => cases named
  | begin other =>
    cases named
    change notebook.beginIfAny id = (notebook, Option.none)
    rw [beginIfAny, begin?, none]
  | complete other output =>
    cases named
    have absent' : id ∉ { notebook with
        executionCount := notebook.executionCount + 1 }.ids := absent
    change notebook.complete id output = _
    rw [complete, modify_of_absent absent']
    rfl
  | reload => cases named

/-- Only the end of a run moves the count. -/
theorem operate_count (named : operation.cell? = some id) :
    (notebook.operate operation).1.executionCount = notebook.executionCount ∨
      ∃ output, operation = .complete id output ∧
        (notebook.operate operation).1.executionCount = notebook.executionCount + 1 := by
  cases operation with
  | edit edit =>
    apply Or.inl
    cases edit with
    | setContent | update | attach => rfl
    | delete deleted =>
      change (notebook.delete deleted).1.executionCount = notebook.executionCount
      unfold delete
      split
      · dsimp only
        split <;> rfl
      · rfl
    | add | clearOutputs | clear | importCells | importText => cases named
  | begin begun =>
    apply Or.inl
    change (notebook.beginIfAny begun).1.executionCount = notebook.executionCount
    rcases beginIfAny_cases begun notebook with same | changed
    · rw [same]
    · rw [changed]
      rfl
  | complete completed output =>
    cases named
    exact Or.inr ⟨output, rfl, rfl⟩
  | reload => cases named

/-- What holds of a notebook at all times. -/
structure Intact (notebook : Notebook) : Prop where
  filled : notebook.cells ≠ []
  /-- No two cells have the same identifier. -/
  distinct : notebook.ids.Nodup
  /-- An operation on a cell leaves all others as they are, in their order. -/
  framed : ∀ operation id, operation.cell? = some id →
    Framed id notebook (notebook.operate operation).1
  /-- Only a deletion takes a cell away. -/
  stays : ∀ operation id, operation.cell? = some id → operation ≠ .edit (.delete id) →
    (notebook.operate operation).1.ids = notebook.ids
  /-- Only the end of a run moves the count. -/
  count : ∀ operation id, operation.cell? = some id →
    (notebook.operate operation).1.executionCount = notebook.executionCount ∨
      ∃ output, operation = .complete id output ∧
        (notebook.operate operation).1.executionCount = notebook.executionCount + 1
  /-- An operation on a cell that is not there fails and changes nothing but this count. -/
  absent : ∀ operation id, operation.cell? = some id → id ∉ notebook.ids →
    notebook.operate operation = notebook.unfound operation

theorem Identified.intact (identified : notebook.Identified) (filled : notebook.cells ≠ []) :
    notebook.Intact where
  filled := filled
  distinct := identified.distinct
  framed := fun _ _ => operate_framed identified.distinct
  stays := fun _ _ => operate_ids
  count := fun _ _ => operate_count
  absent := fun _ _ => operate_of_absent

theorem operateAll_kept (operations : List Operation) (identified : notebook.Identified)
    (filled : notebook.cells ≠ []) :
    (notebook.operateAll operations).Identified ∧ (notebook.operateAll operations).cells ≠ [] := by
  induction operations generalizing notebook with
  | nil => exact ⟨identified, filled⟩
  | cons operation _ inductionHypothesis =>
    apply inductionHypothesis
    · exact identified.operate filled operation
    · exact operate_filled filled operation

/-- Whatever is done to a new notebook, it always has a cell and its cells are told apart, so that an
operation on one of them leaves the others alone, and an operation on one that is not there fails. -/
theorem operateAll_intact (nextId : Nat) (operations : List Operation) :
    ((blank nextId).operateAll operations).Intact := by
  rcases operateAll_kept operations (blank_identified nextId) nofun with ⟨identified, filled⟩
  exact identified.intact filled

end Notebook

end AsmNotebook
