import AsmNotebook.Notebook.Edit
import AsmNotebook.Proofs.Text.Hexadecimal
import Mathlib.Data.List.Nodup

namespace AsmNotebook

/-!
# Identifiers are never used twice

New cells take their identifiers from a numbered supply.  The identifiers of
the supply differ from each other, which is proved of their texts, and those
not given out yet differ from all in use, which is an invariant.  `Supplied`
says at once what every edit does to the identifiers of a notebook: some stay
in their order, and some come from the supply.  So an identifier that is gone
never comes back, and it never names another cell.
-/

theorem idDigits_length (n : Nat) : 30 ≤ (idDigits n).length := by
  simp [idDigits]
  omega

theorem idDigits_injective {m n : Nat} (same : idDigits m = idDigits n) : m = n := by
  calc
    m = Text.hexNumber (idDigits m) := (Text.hexNumber_padded _ m).symm
    _ = Text.hexNumber (idDigits n) := congrArg Text.hexNumber same
    _ = n := Text.hexNumber_padded _ n

theorem hyphenate_length {digits : List Char} (long : 30 ≤ digits.length) :
    (hyphenate digits).length = digits.length + 6 := by
  simp [hyphenate]
  omega

/-- Five pieces of a list, cut one behind the other, are the list. -/
theorem pieces_eq {α : Type} (values : List α) (start : Nat) :
    values.take start ++ ((values.drop start).take 4 ++ ((values.drop (start + 4)).take 3 ++
      ((values.drop (start + 7)).take 3 ++ values.drop (start + 10)))) = values := by
  have third := List.take_append_drop 3 (values.drop (start + 7))
  have second := List.take_append_drop 3 (values.drop (start + 4))
  have first := List.take_append_drop 4 (values.drop start)
  rw [List.drop_drop] at first second third
  rw [third, second, first, List.take_append_drop]

theorem hyphenate_injective {first second : List Char} (long : 30 ≤ first.length)
    (long' : 30 ≤ second.length) (same : hyphenate first = hyphenate second) : first = second := by
  have lengths : first.length = second.length := by
    have total := congrArg List.length same
    rw [hyphenate_length long, hyphenate_length long'] at total
    omega
  have cut : ∃ start, first.length = start + 22 := ⟨first.length - 22, by omega⟩
  rcases cut with ⟨start, long_eq⟩
  have long_eq' : second.length = start + 22 := lengths ▸ long_eq
  have tail : start + 22 - 12 = start + 10 := by omega
  have cuts : start + 10 - 10 = start ∧ start + 10 - 6 = start + 4 ∧ start + 10 - 3 = start + 7 := by
    omega
  simp only [hyphenate, long_eq, long_eq', tail, cuts] at same
  -- The pieces are equally long on both sides, from the last one to the first.
  rcases List.append_inj' same (by simp [long_eq, long_eq']) with ⟨same, last⟩
  rcases List.append_inj' same (by simp [long_eq, long_eq']) with ⟨same, fourth⟩
  rcases List.append_inj' same rfl with ⟨same, _⟩
  rcases List.append_inj' same (by simp [long_eq, long_eq']) with ⟨same, third⟩
  rcases List.append_inj' same rfl with ⟨same, _⟩
  rcases List.append_inj' same (by simp [long_eq, long_eq']) with ⟨front, second_piece⟩
  rw [← pieces_eq first start, ← pieces_eq second start, front, third, fourth]
  rw [(List.cons.inj second_piece).2, (List.cons.inj last).2]

/-- The identifiers of the supply differ from each other. -/
theorem freshId_injective {m n : Nat} (same : freshId m = freshId n) : m = n := by
  apply idDigits_injective
  apply hyphenate_injective (idDigits_length m) (idDigits_length n)
  exact String.ofList_injective same

theorem freshId_length (n : Nat) : 36 ≤ (freshId n).length := by
  have long := idDigits_length n
  rw [freshId, String.length_ofList, hyphenate_length long]
  omega

namespace Notebook

/-- The identifiers of the cells, in order. -/
def ids (notebook : Notebook) : List String :=
  notebook.cells.map Cell.id

/-- The identifiers in use are distinct, and the supply has not given out those to come. -/
structure Identified (notebook : Notebook) : Prop where
  distinct : notebook.ids.Nodup
  fresh : ∀ n, notebook.nextId ≤ n → freshId n ∉ notebook.ids

/-- Identifiers that are shorter than those of the supply do not come from it. -/
theorem identified_of_short {notebook : Notebook} (distinct : notebook.ids.Nodup)
    (short : ∀ id ∈ notebook.ids, id.length < 36) : Identified notebook where
  distinct := distinct
  fresh := fun n _ used => absurd (freshId_length n) (Nat.not_le.2 (short _ used))

/-- What else there is in a notebook does not matter. -/
theorem Identified.of_ids {notebook other : Notebook} (identified : Identified notebook)
    (ids : other.ids = notebook.ids) (nextId : other.nextId = notebook.nextId) :
    Identified other where
  distinct := ids ▸ identified.distinct
  fresh := ids ▸ nextId ▸ identified.fresh

theorem blank_identified (nextId : Nat) : (blank nextId).Identified := by
  constructor
  · exact List.nodup_singleton _
  · intro n ahead used
    have same := freshId_injective (List.mem_singleton.1 used)
    change nextId + 1 ≤ n at ahead
    omega

/-- A notebook that is made of cells takes their identifiers over. -/
theorem unused_ofCells {cells : List Cell} {nextId : Nat}
    (unused : ∀ n, nextId ≤ n → freshId n ∉ cells.map Cell.id) (executionCount : UInt32) :
    ∀ n, (ofCells cells executionCount nextId).nextId ≤ n →
      freshId n ∉ (ofCells cells executionCount nextId).ids := by
  unfold ofCells
  split
  · exact (blank_identified nextId).fresh
  · unfold ids
    rw [List.map_map]
    exact unused

/-- A number of identifiers from the supply. -/
def given (first count : Nat) : List String :=
  (List.range' first count).map freshId

theorem mem_given {first count : Nat} {id : String} :
    id ∈ given first count ↔ ∃ n, first ≤ n ∧ n < first + count ∧ freshId n = id := by
  simp [given, and_assoc]

theorem given_nodup (first count : Nat) : (given first count).Nodup :=
  (List.nodup_range' 1).map fun _ _ => freshId_injective

theorem not_mem_given {first count : Nat} {id : String}
    (unlike : ∀ n, first ≤ n → freshId n ≠ id) : id ∉ given first count := by
  intro used
  rcases mem_given.1 used with ⟨n, ahead, _, same⟩
  exact unlike n ahead same

/-- What comes later from the supply is not among them. -/
theorem freshId_not_mem_given {first count n : Nat} (beyond : first + count ≤ n) :
    freshId n ∉ given first count := by
  intro used
  rcases mem_given.1 used with ⟨m, _, within, same⟩
  have equal := freshId_injective same
  omega

/-- Some identifiers stay in their order, and some come from the supply. -/
def Supplied (earlier later : Notebook) : Prop :=
  ∃ kept count, kept.Sublist earlier.ids ∧ later.nextId = earlier.nextId + count ∧
    later.ids.Perm (kept ++ given earlier.nextId count)

variable {earlier later : Notebook}

/-- An identifier was in use before, or it comes from the supply. -/
theorem Supplied.origin (supplied : Supplied earlier later) {id : String} (used : id ∈ later.ids) :
    id ∈ earlier.ids ∨ ∃ n, earlier.nextId ≤ n ∧ n < later.nextId ∧ freshId n = id := by
  rcases supplied with ⟨kept, count, stays, supply, same⟩
  rcases List.mem_append.1 (same.mem_iff.1 used) with old | new
  · exact Or.inl (stays.subset old)
  · rcases mem_given.1 new with ⟨n, first, last, rfl⟩
    exact Or.inr ⟨n, first, supply ▸ last, rfl⟩

theorem Supplied.nextId_le (supplied : Supplied earlier later) :
    earlier.nextId ≤ later.nextId := by
  rcases supplied with ⟨_, count, _, supply, _⟩
  omega

/-- The supply stays ahead of the identifiers in use. -/
theorem Supplied.unused (supplied : Supplied earlier later)
    (unused : ∀ n, earlier.nextId ≤ n → freshId n ∉ earlier.ids) :
    ∀ n, later.nextId ≤ n → freshId n ∉ later.ids := by
  intro n ahead used
  have behind := supplied.nextId_le
  rcases supplied.origin used with old | ⟨m, _, given_out, same⟩
  · exact unused n (Nat.le_trans behind ahead) old
  · have equal := freshId_injective same
    omega

/-- Identifiers stay distinct, and the supply stays ahead of them. -/
theorem Identified.supplied (identified : Identified earlier) (supplied : Supplied earlier later) :
    Identified later := by
  constructor
  · rcases supplied with ⟨kept, count, stays, _, same⟩
    apply same.nodup_iff.2
    refine List.Nodup.append (stays.nodup identified.distinct) (given_nodup _ _) ?_
    intro id old new
    rcases mem_given.1 new with ⟨n, first, _, rfl⟩
    exact identified.fresh n first (stays.subset old)
  · exact supplied.unused identified.fresh

theorem Supplied.of_same (same : later.ids = earlier.ids) (supply : later.nextId = earlier.nextId) :
    Supplied earlier later :=
  ⟨earlier.ids, 0, List.Sublist.refl _, supply, by simp [given, same]⟩

theorem supplied_refl (notebook : Notebook) : Supplied notebook notebook :=
  .of_same rfl rfl

/-- A cell that is new comes with the next identifier. -/
theorem Supplied.of_new {kept : List String} (stays : kept.Sublist earlier.ids)
    (supply : later.nextId = earlier.nextId + 1)
    (same : later.ids.Perm (kept ++ [freshId earlier.nextId])) : Supplied earlier later :=
  ⟨kept, 1, stays, supply, same⟩

/-- Either there is no cell to change, or the first one of the identifier is changed. -/
theorem modifyFirst_cases (id : String) (f : Cell → Cell) (cells : List Cell) :
    (modifyFirst id f cells = cells ∧ id ∉ cells.map Cell.id) ∨
      ∃ front cell back, cells = front ++ cell :: back ∧ cell.id = id ∧
        id ∉ front.map Cell.id ∧ modifyFirst id f cells = front ++ f cell :: back := by
  induction cells with
  | nil => exact Or.inl ⟨rfl, List.not_mem_nil⟩
  | cons cell rest inductionHypothesis =>
    by_cases here : cell.id = id
    · exact Or.inr ⟨[], cell, rest, rfl, here, List.not_mem_nil, by simp [modifyFirst, here]⟩
    · have other : ∀ {ids : List String}, id ∉ ids → id ∉ cell.id :: ids := by
        intro ids absent
        exact List.not_mem_cons_of_ne_of_not_mem (Ne.symm here) absent
      rcases inductionHypothesis with ⟨same, absent⟩ | ⟨front, first, back, whole, named, new, changed⟩
      · exact Or.inl ⟨by simp [modifyFirst, here, same], other absent⟩
      · refine Or.inr ⟨cell :: front, first, back, by simp [whole], named, other new, ?_⟩
        simp only [modifyFirst, if_neg here, changed, List.cons_append]

/-- A cell is inserted between two parts of a list. -/
theorem insertAfter_eq (cell : Cell) (after : Option Nat) (cells : List Cell) :
    ∃ front back, cells = front ++ back ∧ insertAfter cell after cells = front ++ cell :: back := by
  cases after with
  | none => exact ⟨cells, [], (List.append_nil cells).symm, rfl⟩
  | some index =>
    unfold insertAfter
    by_cases within : index < cells.length
    · refine ⟨cells.take (index + 1), cells.drop (index + 1), ?_, if_pos within⟩
      exact (List.take_append_drop (index + 1) cells).symm
    · exact ⟨cells, [], (List.append_nil cells).symm, if_neg within⟩

theorem insertAfter_perm (cell : Cell) (after : Option Nat) (cells : List Cell) :
    (insertAfter cell after cells).Perm (cells ++ [cell]) := by
  rcases insertAfter_eq cell after cells with ⟨front, back, rfl, inserted⟩
  rw [inserted]
  calc
    (front ++ cell :: back).Perm (cell :: (front ++ back)) := List.perm_middle
    List.Perm _ (front ++ back ++ [cell]) := (List.perm_append_singleton cell _).symm

theorem removeFirst_sublist (id : String) (cells : List Cell) :
    (removeFirst id cells).Sublist cells := by
  induction cells with
  | nil => exact List.Sublist.refl _
  | cons cell rest inductionHypothesis =>
    unfold removeFirst
    by_cases here : cell.id = id
    · simp only [here, if_true]
      exact List.sublist_cons_self _ _
    · simp only [here, if_false]
      exact inductionHypothesis.cons_cons cell

theorem ids_importedCells (nextId : Nat) (entries : List Json) :
    (importedCells nextId entries).map Cell.id = given nextId entries.length := by
  induction entries generalizing nextId with
  | nil => rfl
  | cons entry rest inductionHypothesis =>
    exact congrArg (freshId nextId :: ·) (inductionHypothesis (nextId + 1))

theorem modify_supplied (id : String) {f : Cell → Cell} (keeps : ∀ cell, (f cell).id = cell.id)
    (notebook : Notebook) : Supplied notebook (notebook.modify id f) :=
  .of_same (ids_modify id keeps notebook) rfl

theorem delete_supplied (id : String) (notebook : Notebook) :
    Supplied notebook (notebook.delete id).1 := by
  unfold delete
  split
  · dsimp only
    split
    · exact .of_new (List.nil_sublist _) rfl (List.Perm.refl _)
    · refine ⟨(removeFirst id notebook.cells).map Cell.id, 0, ?_, rfl, ?_⟩
      · exact (removeFirst_sublist id notebook.cells).map Cell.id
      · simp [given, ids]
  · exact supplied_refl notebook

theorem importCells_supplied (entries : Json) (notebook : Notebook) :
    Supplied notebook (notebook.importCells entries).1 := by
  unfold importCells
  split
  · exact supplied_refl notebook
  · exact supplied_refl notebook
  · next items _ _ =>
    refine ⟨[], items.length, List.nil_sublist _, rfl, ?_⟩
    exact List.Perm.of_eq (ids_importedCells notebook.nextId items)

theorem add_supplied (kind : CellKind) (after : Option Nat) (notebook : Notebook) :
    Supplied notebook (notebook.add kind after).1 := by
  refine .of_new (List.Sublist.refl _) rfl ?_
  have names := (insertAfter_perm (.new (freshId notebook.nextId) kind "") after
    notebook.cells).map Cell.id
  rw [List.map_append] at names
  exact names

theorem importText_supplied (text : String) (notebook : Notebook) :
    Supplied notebook (notebook.importText text).1 := by
  unfold importText
  split
  · exact supplied_refl notebook
  · exact importCells_supplied _ notebook

theorem explained_id (explanation : String) (cell : Cell) :
    (explained explanation cell).id = cell.id := by
  unfold explained
  split <;> rfl

/-- Every edit leaves identifiers in their order or takes new ones from the supply. -/
theorem edit_supplied (notebook : Notebook) (edit : Edit) :
    Supplied notebook (notebook.edit edit).1 := by
  cases edit with
  | add kind after => exact add_supplied kind after notebook
  | setContent id content =>
    apply modify_supplied id
    exact fun _ => rfl
  | delete id => exact delete_supplied id notebook
  | update id change =>
    apply modify_supplied id
    exact fun _ => rfl
  | clearOutputs =>
    refine .of_same ?_ rfl
    exact List.map_map
  | clear => exact .of_new (List.nil_sublist _) rfl (List.Perm.refl _)
  | importCells entries => exact importCells_supplied entries notebook
  | importText text => exact importText_supplied text notebook
  | attach id explanation =>
    apply modify_supplied id
    exact explained_id explanation

theorem begin_supplied {id source : String} {notebook begun : Notebook}
    (found : notebook.begin? id = some (begun, source)) : Supplied notebook begun := by
  rcases begin?_eq_some found with ⟨_, _, _, _, rfl⟩
  apply modify_supplied id
  exact fun _ => rfl

theorem complete_supplied (id : String) (output : Output) (notebook : Notebook) :
    Supplied notebook (notebook.complete id output).1 := by
  apply Supplied.of_same
  · apply ids_modifyFirst id
    exact fun _ => rfl
  · rfl

theorem id_of_find? {id : String} {notebook : Notebook} {cell : Cell}
    (found : notebook.find? id = some cell) : cell.id = id := by
  simpa using List.find?_some found

theorem mem_ids_of_find? {id : String} {notebook : Notebook} {cell : Cell}
    (found : notebook.find? id = some cell) : id ∈ notebook.ids := by
  rw [← id_of_find? found]
  exact List.mem_map_of_mem (List.mem_of_find?_eq_some found)

/-- A run begins with a cell that is there, and that stays there. -/
theorem mem_ids_of_begin? {id source : String} {notebook begun : Notebook}
    (found : notebook.begin? id = some (begun, source)) : id ∈ begun.ids := by
  rcases begin?_eq_some found with ⟨cell, there, _, _, rfl⟩
  have names : (notebook.modify id fun cell =>
      { cell with isRunning := true, output := none }).ids = notebook.ids := by
    apply ids_modify
    exact fun _ => rfl
  exact names ▸ mem_ids_of_find? there

end Notebook
end AsmNotebook
