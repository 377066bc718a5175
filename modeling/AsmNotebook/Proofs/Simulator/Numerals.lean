import AsmNotebook.Proofs.Simulator.Memory
import AsmNotebook.Proofs.Text.Hexadecimal

namespace AsmNotebook
namespace Simulator

/-!
# Numbers in registers and memory

An integer without sign is shown by its hexadecimal numeral, which is filled up
to the width of its place and is longer where the number needs it.  So nothing
is cut off, the number can be read back, and different numbers look different.
Numbers with a sign and floating-point numbers have no numeral, be they whole or
not, and their places are left out of a report.

`Faithful` says this of the texts of single numbers.  In a report it holds of
every register of an object whose names are different, and of every address of
a memory in each of its shapes.
-/

open Text (HexNumeral)

variable {document shape : Json} {members : List (String × Json)} {map : SortedMap Json}
variable {name address : String} {number : Number} {width : Nat}

theorem hexNumeral_iff (positive : 0 < width) {n : Nat} {text : String} :
    HexNumeral width n text.toList ↔ hexText width n = text := by
  have numeral : HexNumeral width n (hexText width n).toList := by
    rw [hexText, String.toList_ofList]
    exact Text.hexNumeral_padded positive n
  constructor
  · intro numeral'
    exact String.toList_injective (numeral.unique numeral')
  · rintro rfl
    exact numeral

/-- A text shows a number: it is an integer without sign, and the text its numeral. -/
def Displays (width : Nat) (number : Number) (text : String) : Prop :=
  ∃ n : Nat, number = .integer n ∧ HexNumeral width n text.toList

theorem Displays.number_unique {number' : Number} {text : String} (displays : Displays width number text)
    (displays' : Displays width number' text) : number = number' := by
  rcases displays with ⟨n, rfl, numeral⟩
  rcases displays' with ⟨n', rfl, numeral'⟩
  rw [← numeral.value, ← numeral'.value]

theorem unsigned?_eq_some_iff {n : Nat} : number.unsigned? = some n ↔ number = .integer n := by
  cases number with
  | integer value =>
    unfold Number.unsigned?
    dsimp only
    rw [Number.integer.injEq]
    split
    · next unsigned =>
      rw [Option.some.injEq]
      omega
    · next negative =>
      refine iff_of_false nofun ?_
      omega
  | real => exact iff_of_false nofun nofun

theorem valueText?_number_eq_some_iff (positive : 0 < width) {text : String} :
    valueText? width (.number number) = some text ↔ Displays width number text := by
  rw [valueText?, Option.map_eq_some_iff]
  exact exists_congr fun n => and_congr unsigned?_eq_some_iff (hexNumeral_iff positive).symm

/-- What is shown of numbers is right, and can be told apart. -/
structure Faithful (width : Nat) (text? : Number → Option String) : Prop where
  /-- An integer without sign has a text, -/
  shown : ∀ n : Nat, ∃ text, text? (.integer n) = some text
  /-- which is its numeral. -/
  numeral : ∀ (n : Nat) text, text? (.integer n) = some text → HexNumeral width n text.toList
  /-- Only the same number looks the same. -/
  apart : ∀ number number' text, text? number = some text → text? number' = some text →
    number = number'
  /-- Numbers below zero -/
  negative : ∀ value < 0, text? (.integer value) = none
  /-- and floating-point numbers have no text. -/
  real : ∀ value, text? (.real value) = none

theorem faithful_of_displays {text? : Number → Option String} (positive : 0 < width)
    (displays : ∀ number text, text? number = some text ↔ Displays width number text) :
    Faithful width text? where
  shown := fun n => ⟨hexText width n, (displays _ _).2 ⟨n, rfl, (hexNumeral_iff positive).2 rfl⟩⟩
  numeral := by
    intro n text shown
    rcases (displays _ _).1 shown with ⟨n', same, numeral⟩
    have same' : n = n' := Int.ofNat.inj (Number.integer.inj same)
    rwa [same']
  apart := fun number number' text shown shown' =>
    ((displays _ _).1 shown).number_unique ((displays _ _).1 shown')
  negative := by
    intro value below
    rw [Option.eq_none_iff_forall_ne_some]
    intro text shown
    rcases (displays _ _).1 shown with ⟨n, same, _⟩
    have same' : value = n := Number.integer.inj same
    omega
  real := by
    intro value
    rw [Option.eq_none_iff_forall_ne_some]
    intro text shown
    rcases (displays _ _).1 shown with ⟨n, same, _⟩
    cases same

/-! ## Numbers of a report -/

/-- A register of an object with different names has the text of its value, if that has one. -/
theorem find?_registers?_of_distinct {value : Json} (distinct : (members.map Prod.fst).Nodup)
    (there : (name, value) ∈ members) (before : SortedMap String) :
    ((registers? (.object members)).getD before).find? name =
      valueText? (registerWidth name) value := by
  apply Option.ext
  intro text
  change (SortedMap.ofList _).find? name = _ ↔ _
  rw [SortedMap.find?_ofList_of_distinct, List.mem_filterMap]
  · constructor
    · rintro ⟨⟨name', value'⟩, there', shown⟩
      rcases Option.map_eq_some_iff.1 shown with ⟨text', shown, same⟩
      cases same
      cases List.inj_on_of_nodup_map distinct there there' rfl
      exact shown
    · intro shown
      exact ⟨(name, value), there, by simp [shown]⟩
  · rw [List.Nodup, List.pairwise_map] at distinct ⊢
    apply distinct.filterMap
    rintro ⟨name, _⟩ ⟨name', _⟩ different _ kept _ kept'
    rcases Option.map_eq_some_iff.1 kept with ⟨_, _, rfl⟩
    rcases Option.map_eq_some_iff.1 kept' with ⟨_, _, rfl⟩
    exact different

theorem two_le_registerWidth (name : String) : 2 ≤ registerWidth name := by
  unfold registerWidth
  split <;> decide

/-- Numbers are shown faithfully, and what a report shows of its numbers is this. -/
theorem numbers_faithful :
    (∀ name, Faithful (if name = "SP" ∨ name = "PC" then 4 else 2)
      fun number => valueText? (registerWidth name) (.number number)) ∧
    (Faithful 2 fun number => valueText? 2 (.number number)) ∧
    (∀ {document members name number}, document.get? "registers" = some (.object members) →
      (members.map Prod.fst).Nodup → (name, .number number) ∈ members → ∀ processor text,
        (absorb document processor).registers.find? name = some text ↔
          Displays (if name = "SP" ∨ name = "PC" then 4 else 2) number text) ∧
    ∀ {document map shape address number}, Carries map shape →
      document.get? "memory" = some shape → map.find? address = some (.number number) →
        ∀ processor text, (absorb document processor).memory.find? address = some text ↔
          Displays 2 number text := by
  have positive (name : String) : 0 < registerWidth name :=
    Nat.lt_of_lt_of_le Nat.zero_lt_two (two_le_registerWidth name)
  have shown {number : Number} (name text : String) :
      valueText? (registerWidth name) (.number number) = some text ↔
        Displays (registerWidth name) number text := valueText?_number_eq_some_iff (positive name)
  refine ⟨fun name => faithful_of_displays (positive name) fun _ => shown name,
    faithful_of_displays Nat.zero_lt_two fun _ _ => valueText?_number_eq_some_iff Nat.zero_lt_two,
    ?_, ?_⟩
  · intro document members name number found distinct there processor text
    rw [absorb_eq, Section.registers.reported?_of_get? found]
    change SortedMap.find? name ((registers? (.object members)).getD processor.registers) = _ ↔ _
    rw [find?_registers?_of_distinct distinct there]
    exact shown name text
  · intro document map shape address number carries found there processor text
    rw [absorb_eq, Section.memory.reported?_of_get? found]
    change SortedMap.find? address ((memory? shape).getD processor.memory) = _ ↔ _
    rw [carries.memory?, Option.getD_some, SortedMap.find?_filterMap, there, Option.bind_some]
    exact valueText?_number_eq_some_iff Nat.zero_lt_two

/-- An eight-bit register with a number of more bits, and one with a number below zero. -/
def overflowingRegisters : List (String × Json) :=
  [("B", .number (.integer 4096)), ("C", .number (.integer (-1)))]

/-- A report of these registers and of a memory with one address. -/
def overflowing : Json :=
  .object
    [("registers", .object overflowingRegisters),
      ("memory", .array [memoryItem ("2000", .number (.integer 10))])]

theorem numbers_faithful_overflowing :
    (absorb overflowing .powerOn).registers.find? "B" = some "1000" ∧
      (absorb overflowing .powerOn).registers.find? "C" = none ∧
        (absorb overflowing .powerOn).memory.find? "2000" = some "0A" := by
  have registers : overflowing.get? "registers" = some (.object overflowingRegisters) := rfl
  have distinct : (overflowingRegisters.map Prod.fst).Nodup := by decide
  have wide : ("B", .number (.integer 4096)) ∈ overflowingRegisters := List.mem_cons_self
  have negative : ("C", .number (.integer (-1))) ∈ overflowingRegisters :=
    List.mem_cons_of_mem _ List.mem_cons_self
  have memory : overflowing.get? "memory" =
      some (.array [memoryItem ("2000", .number (.integer 10))]) := rfl
  have carries : Carries (.ofList [("2000", .number (.integer 10))]) _ :=
    .items (List.Perm.refl [("2000", Json.number (.integer 10))])
  refine ⟨?_, ?_, ?_⟩
  · apply (numbers_faithful.2.2.1 registers distinct wide .powerOn "1000").2
    exact ⟨4096, rfl, (hexNumeral_iff Nat.zero_lt_two).2 rfl⟩
  · rw [Option.eq_none_iff_forall_ne_some]
    intro text found
    rcases (numbers_faithful.2.2.1 registers distinct negative .powerOn text).1 found with
      ⟨n, same, _⟩
    cases same
  · apply (numbers_faithful.2.2.2 carries memory rfl .powerOn "0A").2
    exact ⟨10, rfl, (hexNumeral_iff Nat.zero_lt_two).2 rfl⟩

end Simulator
end AsmNotebook
