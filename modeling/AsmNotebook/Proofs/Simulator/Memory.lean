import AsmNotebook.Proofs.Simulator.Report

namespace AsmNotebook
namespace Simulator

/-!
# The shapes of a memory

A memory comes as an object with a member for each address, or as a list of
items that name their address, and either of them may be wrapped once.  Two
loops and a rule for unwrapping read them.  All of them sort what they read, so
the order of a list matters only for items with the same address.

`Carries` lists the shapes in which the same entries can come.  An object that
has entries of its own under the name of the wrapping would be taken for a
wrapped one, so there the value under that name must be neither a list nor an
object.
-/

variable {map : SortedMap Json} {shape document : Json} {items : List Json}
variable {entries : List (String × Json)} {memory : SortedMap String} {address text : String}

/-- An entry as an item of a list. -/
def memoryItem (entry : String × Json) : Json :=
  .object [("address", .text entry.1), ("value", entry.2)]

/-- The entries of a map in one of four shapes. -/
inductive Carries (map : SortedMap Json) : Json → Prop
  | members (unwrapped : ∀ value, map.find? "data" = some value →
      value.isObject = false ∧ value.isArray = false) : Carries map (.object map.entries)
  | items {entries : List (String × Json)} (order : entries.Perm map.entries) :
      Carries map (.array (entries.map memoryItem))
  | wrappedMembers : Carries map (.object [("data", .object map.entries)])
  | wrappedItems {entries : List (String × Json)} (order : entries.Perm map.entries) :
      Carries map (.object [("data", .array (entries.map memoryItem))])

/-- A list of items, alone or wrapped. -/
inductive Lists (items : List Json) : Json → Prop
  | alone : Lists items (.array items)
  | wrapped : Lists items (.object [("data", .array items)])

/-- The address that an item names, with the text of its value, if it has both. -/
def memoryPair? (item : Json) : Option (String × String) := do
  let address ← (item.get? "address").bind Json.scalarText?
  let value ← (item.get? "value").bind (valueText? 2)
  pure (address, value)

/-- The last of the items that have an address and a value with a text has this text. -/
def Prevails (items : List Json) (address text : String) : Prop :=
  ∃ before item after, items = before ++ item :: after ∧
    memoryPair? item = some (address, text) ∧
      ∀ later ∈ after, ∀ text', memoryPair? later ≠ some (address, text')

theorem memoryPair?_memoryItem (entry : String × Json) :
    memoryPair? (memoryItem entry) = (valueText? 2 entry.2).map fun text => (entry.1, text) := by
  change (valueText? 2 entry.2).bind (fun text => some (entry.1, text)) = _
  rw [Option.map_eq_bind]
  rfl

theorem memoryOfItems_eq (items : List Json) :
    memoryOfItems items = .ofList (items.filterMap memoryPair?) :=
  rfl

/-- A list of entries is read as an object of the same entries is. -/
theorem memoryOfItems_map (entries : List (String × Json)) :
    memoryOfItems (entries.map memoryItem) = memoryOfMembers entries := by
  rw [memoryOfItems_eq, List.filterMap_map]
  have same : memoryPair? ∘ memoryItem =
      fun entry => (valueText? 2 entry.2).map fun text => (entry.1, text) :=
    funext memoryPair?_memoryItem
  rw [same]
  rfl

/-- The entries of a map that have a text are read, in whatever order they come. -/
theorem memoryOfMembers_of_perm (order : entries.Perm map.entries) :
    memoryOfMembers entries = map.filterMap (valueText? 2) := by
  have kept := order.symm.filterMap
    fun entry => (valueText? 2 entry.2).map fun text => (entry.1, text)
  have read : SortedMap.ofList (map.filterMap (valueText? 2)).entries = memoryOfMembers entries :=
    SortedMap.ofList_perm kept (map.filterMap (valueText? 2)).distinct_names
  rw [← read, SortedMap.ofList_entries]

theorem Carries.memory? (carries : Carries map shape) :
    memory? shape = some (map.filterMap (valueText? 2)) := by
  have members := memoryOfMembers_of_perm (List.Perm.refl map.entries)
  cases carries with
  | members unwrapped =>
    have data : Json.member? "data" map.entries = map.find? "data" := rfl
    unfold Simulator.memory?
    dsimp only
    rw [data]
    cases found : map.find? "data" with
    | none => exact congrArg some members
    | some value =>
      cases value with
      | array => cases (unwrapped _ found).2
      | object => cases (unwrapped _ found).1
      | null | bool | number | text => exact congrArg some members
  | items order => exact congrArg some ((memoryOfItems_map _).trans (memoryOfMembers_of_perm order))
  | wrappedMembers => exact congrArg some members
  | wrappedItems order =>
    exact congrArg some ((memoryOfItems_map _).trans (memoryOfMembers_of_perm order))

theorem Lists.memory? (lists : Lists items shape) : memory? shape = some (memoryOfItems items) := by
  cases lists <;> rfl

/-- What is read of a memory is in the report, whatever else is. -/
theorem exists_update_of_memory? (found : document.get? "memory" = some shape)
    (read : memory? shape = some memory) :
    ∃ update, processorUpdate? document = some update ∧ update.memory = some memory := by
  have reported : Section.memory.reported? document = some memory :=
    (Section.memory.reported?_of_get? found).trans read
  rw [processorUpdate?_eq, reported]
  exact ⟨_, if_neg (by simp [ProcessorUpdate.isEmpty]), rfl⟩

/-- The entries of a map are read alike in all shapes, as those that have a text, and of items with the
same address the last one with a text is read. -/
theorem memory_shapes_agree :
    (∀ {map shape document}, Carries map shape → document.get? "memory" = some shape →
      ∃ update, processorUpdate? document = some update ∧
        update.memory = some (map.filterMap (valueText? 2)) ∧
          ∀ address, (map.filterMap (valueText? 2)).find? address =
            (map.find? address).bind (valueText? 2)) ∧
    ∀ {items shape document}, Lists items shape → document.get? "memory" = some shape →
      ∃ update memory, processorUpdate? document = some update ∧ update.memory = some memory ∧
        ∀ address text, memory.find? address = some text ↔ Prevails items address text := by
  constructor
  · intro map shape document carries found
    rcases exists_update_of_memory? found carries.memory? with ⟨update, reported, memory⟩
    exact ⟨update, reported, memory, SortedMap.find?_filterMap _ map⟩
  · intro items shape document lists found
    rcases exists_update_of_memory? found lists.memory? with ⟨update, reported, memory⟩
    refine ⟨update, _, reported, memory, fun address text => ?_⟩
    rw [memoryOfItems_eq]
    exact SortedMap.find?_ofList_filterMap_eq_some_iff

/-- An address without a text, an address in the place of the wrapping and a list out of order, and an
address that comes three times, the last time without a text. -/
theorem memory_shapes_agree_out_of_order :
    (∃ update, processorUpdate? (.object [("memory", .array ([("data", .text "AB"),
        ("2001", .null), ("2000", .number (.integer 10))].map memoryItem))]) = some update ∧
      update.memory = some (.ofList [("2000", "0A"), ("data", "AB")])) ∧
    ∃ update memory, processorUpdate? (.object [("memory", .object [("data", .array
        ([("2000", .number (.integer 1)), ("2000", .number (.integer 2)),
          ("2000", .null)].map memoryItem))])]) = some update ∧
      update.memory = some memory ∧ memory.find? "2000" = some "02" := by
  constructor
  · have order := List.reverse_perm [("2000", Json.number (.integer 10)), ("2001", .null),
      ("data", .text "AB")]
    have carries : Carries (.ofList [("2000", .number (.integer 10)), ("2001", .null),
        ("data", .text "AB")]) _ := .items order
    have found : Json.get? "memory" (.object [("memory", .array ([("data", .text "AB"),
        ("2001", .null), ("2000", .number (.integer 10))].map memoryItem))]) = some _ := rfl
    rcases memory_shapes_agree.1 carries found with ⟨update, reported, memory, _⟩
    exact ⟨update, reported, memory⟩
  · have found : Json.get? "memory" (.object [("memory", .object [("data", .array
        ([("2000", .number (.integer 1)), ("2000", .number (.integer 2)),
          ("2000", .null)].map memoryItem))])]) = some _ := rfl
    rcases memory_shapes_agree.2 .wrapped found with ⟨update, memory, reported, read, prevails⟩
    refine ⟨update, memory, reported, read, (prevails "2000" "02").2 ?_⟩
    refine ⟨[memoryItem ("2000", .number (.integer 1))],
      memoryItem ("2000", .number (.integer 2)), [memoryItem ("2000", .null)], rfl, rfl, ?_⟩
    intro later member text
    rw [List.mem_singleton.1 member]
    exact nofun

end Simulator
end AsmNotebook
