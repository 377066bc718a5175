import AsmNotebook.Cell.Basic
import AsmNotebook.Json.Format

namespace AsmNotebook

/-!
A notebook: its cells in order, the count of executions, and the supply of
identifiers for new cells.  The list of cells never becomes empty: where the
last cell goes, a blank one comes.

An operation that names a cell changes the first cell of that name at most.
`ids_modify` says that such a change leaves the names as they were.
-/

/-- The digits of an identifier, but for the two that say how it was made. -/
def idDigits (n : Nat) : List Char :=
  let digits := Nat.toDigits 16 n
  List.replicate (30 - digits.length) '0' ++ digits

/-- Digits in the form of a random identifier of 128 bits. -/
def hyphenate (digits : List Char) : List Char :=
  let part (start length : Nat) : List Char := (digits.drop start).take length
  let tail := digits.length - 12
  digits.take (tail - 10) ++ '-' :: part (tail - 10) 4 ++ ['-', '4'] ++ part (tail - 6) 3 ++
    ['-', '8'] ++ part (tail - 3) 3 ++ '-' :: digits.drop tail

/-- The `n`-th identifier for new cells.  It has the form of a random identifier of 128 bits, and the
number in its digits. -/
def freshId (n : Nat) : String :=
  String.ofList (hyphenate (idDigits n))

structure Notebook where
  cells : List Cell
  executionCount : UInt32
  /-- Identifiers from this number on have not been given out. -/
  nextId : Nat
deriving DecidableEq

/-- A change of some fields of a cell; fields without a value stay. -/
structure CellUpdate where
  content : Option String
  kind : Option CellKind
  output : Option (Option Output)
  executionCount : Option (Option UInt32)
  isRunning : Option Bool

namespace CellUpdate

def none : CellUpdate where
  content := .none
  kind := .none
  output := .none
  executionCount := .none
  isRunning := .none

/-- The cell with the changed fields. -/
def apply (update : CellUpdate) (cell : Cell) : Cell where
  id := cell.id
  kind := update.kind.getD cell.kind
  content := update.content.getD cell.content
  output := update.output.getD cell.output
  executionCount := update.executionCount.getD cell.executionCount
  isRunning := update.isRunning.getD cell.isRunning

end CellUpdate

/-- Why a document cannot be imported. -/
inductive ImportFault
  | notJson (error : Json.Error)
  | notArray
  | noCells
deriving DecidableEq, Repr

namespace ImportFault

def reason : ImportFault → String
  | notJson error => "not valid JSON: " ++ error.message
  | notArray => "cells must be an array"
  | noCells => "No valid cells to import"

def message (fault : ImportFault) : String :=
  "Invalid import: " ++ fault.reason

end ImportFault

namespace Notebook

/-- A notebook with one blank cell, whose identifiers come from a number on. -/
def blank (nextId : Nat) : Notebook where
  cells := [.new (freshId nextId) .code ""]
  executionCount := 0
  nextId := nextId + 1

/-- A notebook of given cells, none of them running; a blank one if there are none. -/
def ofCells (cells : List Cell) (executionCount : UInt32) (nextId : Nat) : Notebook :=
  if cells.isEmpty then
    blank nextId
  else
    { cells := cells.map fun cell => { cell with isRunning := false }
      executionCount := executionCount
      nextId := nextId }

/-- The first cell of an identifier. -/
def find? (id : String) (notebook : Notebook) : Option Cell :=
  notebook.cells.find? fun cell => cell.id == id

/-- The position of the first cell of an identifier. -/
def index? (id : String) (notebook : Notebook) : Option Nat :=
  notebook.cells.findIdx? fun cell => cell.id == id

def contains (id : String) (notebook : Notebook) : Bool :=
  (notebook.find? id).isSome

/-- Change the first cell of an identifier in a list. -/
def modifyFirst (id : String) (f : Cell → Cell) : List Cell → List Cell
  | [] => []
  | cell :: rest => if cell.id = id then f cell :: rest else cell :: modifyFirst id f rest

@[simp] theorem length_modifyFirst (id : String) (f : Cell → Cell) (cells : List Cell) :
    (modifyFirst id f cells).length = cells.length := by
  induction cells with
  | nil => rfl
  | cons cell rest ih => by_cases h : cell.id = id <;> simp [modifyFirst, h, ih]

theorem ids_modifyFirst (id : String) {f : Cell → Cell} (hf : ∀ cell, (f cell).id = cell.id)
    (cells : List Cell) : (modifyFirst id f cells).map Cell.id = cells.map Cell.id := by
  induction cells with
  | nil => rfl
  | cons cell rest ih => by_cases h : cell.id = id <;> simp [modifyFirst, h, hf, ih]

/-- A change of the cells of an identifier that is not in use changes nothing. -/
theorem map_of_absent {id : String} {f : Cell → Cell} {cells : List Cell}
    (absent : id ∉ cells.map Cell.id) :
    cells.map (fun cell => if cell.id = id then f cell else cell) = cells := by
  induction cells with
  | nil => rfl
  | cons cell rest ih =>
    have other : cell.id ≠ id := fun same => absent (same ▸ List.mem_cons_self)
    have later : id ∉ rest.map Cell.id := fun member => absent (List.mem_cons_of_mem _ member)
    simp only [List.map_cons, if_neg other, ih later]

/-- Where identifiers are distinct, the first cell of an identifier is the only one. -/
theorem modifyFirst_eq_map (id : String) (f : Cell → Cell) {cells : List Cell}
    (distinct : (cells.map Cell.id).Nodup) :
    modifyFirst id f cells = cells.map fun cell => if cell.id = id then f cell else cell := by
  induction cells with
  | nil => rfl
  | cons cell rest ih =>
    rcases List.nodup_cons.1 distinct with ⟨new, distinct⟩
    by_cases h : cell.id = id
    · simp [modifyFirst, h, map_of_absent (h ▸ new)]
    · simp [modifyFirst, h, ih distinct]

/-- Change the first cell of an identifier. -/
def modify (id : String) (f : Cell → Cell) (notebook : Notebook) : Notebook :=
  { notebook with cells := modifyFirst id f notebook.cells }

/-- A change that keeps identifiers keeps the order in which cells are named. -/
theorem ids_modify (id : String) {f : Cell → Cell} (hf : ∀ cell, (f cell).id = cell.id)
    (notebook : Notebook) : (notebook.modify id f).cells.map Cell.id = notebook.cells.map Cell.id :=
  ids_modifyFirst id hf notebook.cells

/-- The cell of an identifier after a change that keeps identifiers. -/
theorem find?_modify (id other : String) {f : Cell → Cell} (hf : ∀ cell, (f cell).id = cell.id)
    (notebook : Notebook) :
    (notebook.modify id f).find? other =
      (notebook.find? other).map fun cell => if cell.id = id then f cell else cell := by
  unfold find? modify
  dsimp only
  induction notebook.cells with
  | nil => rfl
  | cons cell rest ih =>
    by_cases named : cell.id = other
    · by_cases here : cell.id = id
      · simp [modifyFirst, here, hf, ← named]
      · simp [modifyFirst, named]
        simp [← named, here]
    · by_cases here : cell.id = id
      · have untouched : ∀ found, rest.find? (fun cell => cell.id == other) = some found →
            (if found.id = id then f found else found) = found := by
          intro found there
          have same : found.id = other := by simpa using List.find?_some there
          rw [if_neg]
          intro also
          exact named (here.trans (also.symm.trans same))
        simp only [modifyFirst, if_pos here, List.find?_cons, hf, beq_eq_false_iff_ne.2 named]
        cases found : rest.find? (fun cell => cell.id == other) with
        | none => rfl
        | some cell => exact congrArg some (untouched cell found).symm
      · simp only [modifyFirst, if_neg here, List.find?_cons, beq_eq_false_iff_ne.2 named]
        exact ih

/-- Insert a cell behind a position, or at the end. -/
def insertAfter (cell : Cell) (after : Option Nat) (cells : List Cell) : List Cell :=
  match after with
  | none => cells ++ [cell]
  | some index =>
    if index < cells.length then cells.take (index + 1) ++ cell :: cells.drop (index + 1)
    else cells ++ [cell]

/-- Add a blank cell behind a position, or at the end where there is no such position; the result
names the cell. -/
def add (kind : CellKind) (after : Option Nat) (notebook : Notebook) : Notebook × String :=
  let id := freshId notebook.nextId
  ({ notebook with
      cells := insertAfter (.new id kind "") after notebook.cells
      nextId := notebook.nextId + 1 },
    id)

/-- Remove the first cell of an identifier from a list. -/
def removeFirst (id : String) : List Cell → List Cell
  | [] => []
  | cell :: rest => if cell.id = id then rest else cell :: removeFirst id rest

/-- Remove a cell; the result says whether there was one. -/
def delete (id : String) (notebook : Notebook) : Notebook × Bool :=
  if notebook.contains id then
    let left := removeFirst id notebook.cells
    if left.isEmpty then
      ({ notebook with
          cells := [.new (freshId notebook.nextId) .code ""]
          nextId := notebook.nextId + 1 },
        true)
    else
      ({ notebook with cells := left }, true)
  else
    (notebook, false)

/-- Change fields of a cell; the result says whether there is one. -/
def update (id : String) (change : CellUpdate) (notebook : Notebook) : Notebook × Bool :=
  (notebook.modify id change.apply, notebook.contains id)

/-- Replace the text of a cell; the result says whether there is one. -/
def setContent (id content : String) (notebook : Notebook) : Notebook × Bool :=
  notebook.update id { CellUpdate.none with content := some content }

def clearOutputs (notebook : Notebook) : Notebook :=
  { notebook with cells := notebook.cells.map fun cell => { cell with output := none } }

/-- Start over with one blank cell and no executions. -/
def clear (notebook : Notebook) : Notebook :=
  blank notebook.nextId

/-- The kind of an imported cell; anything that names no kind is code. -/
def importedKind (entry : Json) : CellKind :=
  match (entry.textAt? "type").map CellKind.parse with
  | some (.ok kind) => kind
  | _ => .code

/-- Cells from the entries of an imported document, identified from a number on. -/
def importedCells (nextId : Nat) : List Json → List Cell
  | [] => []
  | entry :: rest =>
    .new (freshId nextId) (importedKind entry) ((entry.textAt? "content").getD "") ::
      importedCells (nextId + 1) rest

/-- Replace all cells by those of a list of entries; the result counts them.  A fault leaves the
notebook as it was. -/
def importCells (entries : Json) (notebook : Notebook) : Notebook × Except ImportFault Nat :=
  match entries.items? with
  | none => (notebook, .error .notArray)
  | some [] => (notebook, .error .noCells)
  | some items =>
    ({ cells := importedCells notebook.nextId items
       executionCount := 0
       nextId := notebook.nextId + items.length },
      .ok items.length)

/-- Replace all cells by those of a text that holds a document with a member `cells`. -/
def importText (text : String) (notebook : Notebook) : Notebook × Except ImportFault Nat :=
  match Json.parse text with
  | .error error => (notebook, .error (.notJson error))
  | .ok document => notebook.importCells ((document.get? "cells").getD .null)

/-- Begin a run of a cell that is not blank: it runs from now on and loses its output.  The result is
the text to run. -/
def begin? (id : String) (notebook : Notebook) : Option (Notebook × String) :=
  match notebook.find? id with
  | none => none
  | some cell =>
    if cell.isBlank then
      none
    else
      some (notebook.modify id (fun cell => { cell with isRunning := true, output := none }),
        cell.content)

/-- A run does not begin exactly where the cell is blank or gone. -/
theorem begin?_eq_none_iff {id : String} {notebook : Notebook} :
    notebook.begin? id = none ↔ ∀ cell, notebook.find? id = some cell → cell.isBlank = true := by
  unfold begin?
  cases notebook.find? id with
  | none => simp
  | some cell => cases cell.isBlank <;> simp

/-- Whether a run begins is decided by the text of the cell. -/
theorem isSome_begin? (id : String) (notebook : Notebook) :
    (notebook.begin? id).isSome = ((notebook.find? id).map Cell.isBlank).any not := by
  unfold begin?
  cases notebook.find? id with
  | none => rfl
  | some cell => cases blank : cell.isBlank <;> simp [blank]

/-- A change that keeps identifiers and texts does not change which runs begin. -/
theorem isSome_begin?_modify (id other : String) {f : Cell → Cell}
    (hf : ∀ cell, (f cell).id = cell.id) (hc : ∀ cell, (f cell).content = cell.content)
    (notebook : Notebook) :
    ((notebook.modify id f).begin? other).isSome = (notebook.begin? other).isSome := by
  have blank : (Cell.isBlank ∘ fun cell => if cell.id = id then f cell else cell) =
      Cell.isBlank := by
    funext cell
    by_cases h : cell.id = id
    · simp only [Function.comp_apply, if_pos h, Cell.isBlank, hc]
    · simp only [Function.comp_apply, if_neg h]
  rw [isSome_begin?, isSome_begin?, find?_modify id other hf, Option.map_map, blank]

/-- A run begins with the text that the cell has. -/
theorem begin?_eq_some {id source : String} {notebook begun : Notebook}
    (found : notebook.begin? id = some (begun, source)) :
    ∃ cell, notebook.find? id = some cell ∧ cell.isBlank = false ∧ cell.content = source ∧
      begun = notebook.modify id fun cell => { cell with isRunning := true, output := none } := by
  unfold begin? at found
  cases there : notebook.find? id with
  | none => simp [there] at found
  | some cell =>
    cases blank : cell.isBlank with
    | true => simp [there, blank] at found
    | false =>
      simp only [there, blank, Bool.false_eq_true, if_false, Option.some.injEq,
        Prod.mk.injEq] at found
      exact ⟨cell, rfl, blank, found.2, found.1.symm⟩

/-- End a run: the count advances, and the cell, if it is still there, has the output and the count.
The result is the count. -/
def complete (id : String) (output : Output) (notebook : Notebook) : Notebook × UInt32 :=
  let count := notebook.executionCount + 1
  let counted := { notebook with executionCount := count }
  (counted.modify id fun cell =>
      { cell with output := some output, executionCount := some count, isRunning := false },
    count)

theorem isSome_begin?_complete (id other : String) (output : Output) (notebook : Notebook) :
    ((notebook.complete id output).1.begin? other).isSome = (notebook.begin? other).isSome := by
  have counted : ({ notebook with
      executionCount := notebook.executionCount + 1 }.begin? other).isSome =
        (notebook.begin? other).isSome := by
    rw [isSome_begin?, isSome_begin?]
    rfl
  rw [← counted]
  apply isSome_begin?_modify
  · exact fun _ => rfl
  · exact fun _ => rfl

/-- The cell with an explanation of its failure. -/
def explained (explanation : String) (cell : Cell) : Cell :=
  match cell.output with
  | some (.failure failure) =>
    { cell with output := some (.failure { failure with explanation := some explanation }) }
  | _ => cell

/-- Attach an explanation to the failure of a cell; the result says whether there is one. -/
def attach (id explanation : String) (notebook : Notebook) : Notebook × Bool :=
  let failed :=
    match (notebook.find? id).bind Cell.output with
    | some (.failure _) => true
    | _ => false
  (notebook.modify id (explained explanation), failed)

end Notebook

end AsmNotebook
