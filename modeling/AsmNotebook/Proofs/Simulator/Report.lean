import AsmNotebook.Proofs.Json.Bounds
import AsmNotebook.Proofs.Json.Tree
import AsmNotebook.Proofs.Simulator.Denial

namespace AsmNotebook

namespace Json

def isObject (document : Json) : Bool :=
  document.members?.isSome

def isArray (document : Json) : Bool :=
  document.items?.isSome

theorem Bounded.get? {document value : Json} {name : String} (bounded : document.Bounded)
    (found : document.get? name = some value) : value.Bounded := by
  cases bounded with
  | object bounded =>
    rcases Option.map_eq_some_iff.1 found with ⟨member, first, rfl⟩
    exact bounded member (List.mem_of_find?_eq_some first)
  | null | bool | number | text | array => cases found

end Json

namespace Simulator

/-!
# From a report to the processor, section by section

A report goes a long way before it changes anything.  A section that does not
count as true is dropped, one of another shape is not read, a report without
sections is none at all, and what is left replaces what was known.

For each of the three sections this comes to one equation, which `Lawful`
names: the section becomes what can be read under its name, and stays as it was
where nothing can.  That a section is replaced, that it is left alone, and that
no other part of the report has a say in it, is read off this equation.
-/

variable {document other value : Json} {members : List (String × Json)} {name : String}
variable {processor processor' : Processor} {α : Type}

/-- The processor after the report that a document holds, if it holds one. -/
def absorb (document : Json) (processor : Processor) : Processor :=
  match processorUpdate? document with
  | some update => processor.act (.apply update)
  | none => processor

/-- A section: its name in reports, how it is read there, and where the processor has it. -/
structure Section (α : Type) where
  name : String
  read? : Json → Option (SortedMap α)
  kept : Processor → SortedMap α

namespace Section

def registers : Section String where
  name := "registers"
  read? := registers?
  kept := Processor.registers

def flags : Section Bool where
  name := "flags"
  read? := flags?
  kept := Processor.flags

def memory : Section String where
  name := "memory"
  read? := memory?
  kept := Processor.memory

/-- What a document says of the section. -/
def reported? (part : Section α) (document : Json) : Option (SortedMap α) :=
  (document.get? part.name).bind part.read?

/-- The section is the same afterwards, whatever it was before. -/
def Replaced (part : Section α) (document : Json) : Prop :=
  ∃ map, ∀ processor, part.kept (absorb document processor) = map

/-- The section is what it was before. -/
def Untouched (part : Section α) (document : Json) : Prop :=
  ∀ processor, part.kept (absorb document processor) = part.kept processor

end Section

/-! ## Shapes -/

theorem isSome_registers? (value : Json) : (registers? value).isSome = value.isObject :=
  Option.isSome_map

theorem isSome_flags? (value : Json) : (flags? value).isSome = value.isObject :=
  Option.isSome_map

theorem isSome_memory? (value : Json) :
    (memory? value).isSome = (value.isObject || value.isArray) := by
  cases value with
  | object members =>
    unfold memory?
    dsimp only
    split <;> rfl
  | null | bool | number | text | array => rfl

/-- Objects and lists count as true, be they empty or not. -/
theorem truthy_of_shaped (shaped : (value.isObject || value.isArray) = true) :
    truthy value = true := by
  cases value with
  | array | object => rfl
  | null | bool | number | text => cases shaped

/-- To drop what does not count as true changes nothing where only objects and lists are read. -/
theorem bind_section? {read? : Json → Option (SortedMap α)}
    (reads : ∀ value, (read? value).isSome = true → (value.isObject || value.isArray) = true)
    (name : String) (document : Json) :
    (section? name document).bind read? = (document.get? name).bind read? := by
  unfold section?
  cases document.get? name with
  | none => rfl
  | some value =>
    cases read : read? value with
    | none => cases counts : truthy value <;> simp [Option.filter_some, counts, read]
    | some map =>
      have counts := truthy_of_shaped (reads value (Option.isSome_of_eq_some read))
      simp [Option.filter_some, counts]

/-! ## What is reported replaces what was known -/

theorem processorUpdate?_eq (document : Json) :
    processorUpdate? document =
      let update : ProcessorUpdate :=
        { registers := Section.registers.reported? document
          flags := Section.flags.reported? document
          memory := Section.memory.reported? document }
      if update.isEmpty then none else some update := by
  unfold processorUpdate?
  have object : ∀ value : Json, value.isObject = true → (value.isObject || value.isArray) = true :=
    fun value shaped => Bool.or_eq_true_iff.2 (Or.inl shaped)
  rw [bind_section? fun value read => object value (isSome_registers? value ▸ read),
    bind_section? fun value read => object value (isSome_flags? value ▸ read),
    bind_section? fun value read => isSome_memory? value ▸ read]
  rfl

/-- A report without sections would change nothing, so nothing is lost where it is none at all. -/
theorem absorb_eq (document : Json) (processor : Processor) :
    absorb document processor =
      { registers := (Section.registers.reported? document).getD processor.registers
        flags := (Section.flags.reported? document).getD processor.flags
        memory := (Section.memory.reported? document).getD processor.memory } := by
  unfold absorb
  rw [processorUpdate?_eq]
  dsimp only
  split
  · next found =>
    split at found
    · cases found
    · cases found
      rfl
  · next found =>
    split at found
    · next empty =>
      simp only [ProcessorUpdate.isEmpty, Bool.and_eq_true, Option.isNone_iff_eq_none] at empty
      simp [empty]
    · cases found

namespace Section

/-- A section becomes what is reported of it, and it can be any map before that. -/
structure Lawful (part : Section α) : Prop where
  absorbed : ∀ document processor,
    part.kept (absorb document processor) = (part.reported? document).getD (part.kept processor)
  onto : ∀ map, ∃ processor, part.kept processor = map

theorem lawful_registers : registers.Lawful where
  absorbed := fun document processor => congrArg Processor.registers (absorb_eq document processor)
  onto := fun map => ⟨{ Processor.powerOn with registers := map }, rfl⟩

theorem lawful_flags : flags.Lawful where
  absorbed := fun document processor => congrArg Processor.flags (absorb_eq document processor)
  onto := fun map => ⟨{ Processor.powerOn with flags := map }, rfl⟩

theorem lawful_memory : memory.Lawful where
  absorbed := fun document processor => congrArg Processor.memory (absorb_eq document processor)
  onto := fun map => ⟨{ Processor.powerOn with memory := map }, rfl⟩

variable {part : Section α} {shaped : Json → Bool}

theorem Lawful.untouched_iff [Inhabited α] (lawful : part.Lawful) :
    part.Untouched document ↔ part.reported? document = none := by
  constructor
  · intro untouched
    by_contra present
    rcases Option.ne_none_iff_exists'.1 present with ⟨map, reported⟩
    -- A section that was another map before is not what it was.
    rcases exists_ne_map map with ⟨different, ne⟩
    rcases lawful.onto different with ⟨processor, rfl⟩
    have absorbed := lawful.absorbed document processor
    rw [reported, untouched processor] at absorbed
    exact ne absorbed
  · intro none processor
    rw [lawful.absorbed, none, Option.getD_none]

theorem Lawful.replaced_iff [Inhabited α] (lawful : part.Lawful) :
    part.Replaced document ↔ part.reported? document ≠ none := by
  constructor
  · rintro ⟨map, always⟩ none
    rcases exists_ne_map map with ⟨different, ne⟩
    rcases lawful.onto different with ⟨processor, rfl⟩
    exact ne ((lawful.untouched_iff.2 none processor).symm.trans (always processor))
  · intro present
    rcases Option.ne_none_iff_exists'.1 present with ⟨map, reported⟩
    refine ⟨map, fun processor => ?_⟩
    rw [lawful.absorbed, reported, Option.getD_some]

/-- A document decides about a section by the member of its name alone.  It replaces the section if
the member has a shape, and leaves it alone otherwise. -/
structure Governed (part : Section α) (document : Json) (shaped : Json → Bool) : Prop where
  replaced : part.Replaced document ↔ (document.get? part.name).any shaped = true
  untouched : part.Untouched document ↔ (document.get? part.name).any shaped = false
  alone : ∀ other, other.get? part.name = document.get? part.name → ∀ processor processor',
    part.kept processor' = part.kept processor →
      part.kept (absorb other processor') = part.kept (absorb document processor)

theorem reported?_of_get? (part : Section α) (found : document.get? part.name = some value) :
    part.reported? document = part.read? value := by
  rw [reported?, found]
  rfl

theorem reported?_eq_none_iff (reads : ∀ value, (part.read? value).isSome = shaped value)
    (document : Json) :
    part.reported? document = none ↔ (document.get? part.name).any shaped = false := by
  unfold reported?
  cases document.get? part.name with
  | none => exact iff_of_true rfl rfl
  | some value =>
    rw [Option.any_some, ← reads, Option.isSome_eq_false_iff, Option.isNone_iff_eq_none]
    rfl

theorem Lawful.governed [Inhabited α] (lawful : part.Lawful)
    (reads : ∀ value, (part.read? value).isSome = shaped value) (document : Json) :
    part.Governed document shaped where
  replaced := by
    rw [lawful.replaced_iff, Ne, reported?_eq_none_iff reads, Bool.not_eq_false]
  untouched := by
    rw [lawful.untouched_iff, reported?_eq_none_iff reads]
  alone := by
    intro other same processor processor' before
    rw [lawful.absorbed, lawful.absorbed, before, reported?, same]
    rfl

end Section

/-- There is no report exactly if there is no section. -/
theorem processorUpdate?_eq_none_iff :
    processorUpdate? document = none ↔
      Section.registers.reported? document = none ∧ Section.flags.reported? document = none ∧
        Section.memory.reported? document = none := by
  rw [processorUpdate?_eq]
  dsimp only
  split
  · next empty =>
    simp only [ProcessorUpdate.isEmpty, Bool.and_eq_true, Option.isNone_iff_eq_none] at empty
    exact iff_of_true rfl ⟨empty.1.1, empty.1.2, empty.2⟩
  · next present =>
    refine iff_of_false nofun fun none => present ?_
    simp [ProcessorUpdate.isEmpty, none]

/-! ## Names -/

/-- A text, a truth value, or an integer of 64 bits without sign. -/
inductive Shown : Json → Prop
  | text (value : String) : Shown (.text value)
  | bool (value : Bool) : Shown (.bool value)
  | integer {n : Nat} (fits : n ≤ Json.maxUnsigned) : Shown (.number (.integer n))

theorem isSome_unsigned?_iff {value : Number} (bounded : value.Bounded) :
    value.unsigned?.isSome = true ↔ Shown (.number value) := by
  cases value with
  | integer n =>
    unfold Number.unsigned?
    dsimp only
    by_cases unsigned : 0 ≤ n
    · rw [if_pos unsigned, ← Int.toNat_of_nonneg unsigned]
      have fits : n.toNat ≤ 18446744073709551615 := by
        have below := bounded.2
        omega
      exact iff_of_true rfl (.integer fits)
    · rw [if_neg unsigned]
      refine iff_of_false Bool.false_ne_true ?_
      rintro ⟨⟩
      exact unsigned (Int.natCast_nonneg _)
  | real => exact iff_of_false Bool.false_ne_true nofun

/-- Exactly these values have a text. -/
theorem isSome_valueText?_iff (bounded : value.Bounded) (width : Nat) :
    (valueText? width value).isSome = true ↔ Shown value := by
  cases bounded with
  | number bounded =>
    rw [valueText?, Option.isSome_map]
    exact isSome_unsigned?_iff bounded
  | text value => exact iff_of_true rfl (.text value)
  | bool value => exact iff_of_true rfl (.bool value)
  | null | array | object => exact iff_of_false Bool.false_ne_true nofun

theorem isSome_find?_registers? {map : SortedMap String} (bounded : (Json.object members).Bounded)
    (read : registers? (.object members) = some map) :
    (map.find? name).isSome = true ↔ ∃ value, (name, value) ∈ members ∧ Shown value := by
  cases read
  rw [SortedMap.isSome_find?_ofList]
  cases bounded with
  | object bounded =>
    constructor
    · rintro ⟨text, member⟩
      rcases List.mem_filterMap.1 member with ⟨⟨name', value⟩, there, shown⟩
      rcases Option.map_eq_some_iff.1 shown with ⟨text', written, same⟩
      cases same
      have some_text := Option.isSome_of_eq_some written
      exact ⟨value, there, (isSome_valueText?_iff (bounded _ there) _).1 some_text⟩
    · rintro ⟨value, there, shown⟩
      have some_text := (isSome_valueText?_iff (bounded _ there) (registerWidth name)).2 shown
      rcases Option.isSome_iff_exists.1 some_text with ⟨text, written⟩
      exact ⟨text, List.mem_filterMap.2 ⟨_, there, by simp [written]⟩⟩

theorem isSome_find?_flags? {map : SortedMap Bool} (read : flags? (.object members) = some map) :
    (map.find? name).isSome = true ↔ ∃ value, (name, value) ∈ members := by
  cases read
  rw [SortedMap.isSome_find?_ofList]
  constructor
  · rintro ⟨flag, member⟩
    rcases List.mem_map.1 member with ⟨⟨name', value⟩, there, same⟩
    cases same
    exact ⟨value, there⟩
  · rintro ⟨value, there⟩
    exact ⟨flagValue value, List.mem_map.2 ⟨_, there, rfl⟩⟩

/-- What becomes of the sections that a document reports. -/
structure SectionBySection (document : Json) : Prop where
  /-- Registers are replaced by an object, -/
  registers : Section.registers.Governed document Json.isObject
  /-- flags too, -/
  flags : Section.flags.Governed document Json.isObject
  /-- and memory by an object or an array. -/
  memory : Section.memory.Governed document fun value => value.isObject || value.isArray
  /-- There is no report exactly if there is nothing to replace. -/
  nothing : processorUpdate? document = none ↔
    (document.get? "registers").any Json.isObject = false ∧
      (document.get? "flags").any Json.isObject = false ∧
        (document.get? "memory").any (fun value => value.isObject || value.isArray) = false
  /-- Replaced registers are those that have something to show.  Integers of documents fit 64 bits. -/
  register_names : document.Bounded → ∀ members,
    document.get? "registers" = some (.object members) → ∀ processor name,
      ((absorb document processor).registers.find? name).isSome = true ↔
        ∃ value, (name, value) ∈ members ∧ Shown value
  /-- Replaced flags are all that there are. -/
  flag_names : ∀ members, document.get? "flags" = some (.object members) → ∀ processor name,
    ((absorb document processor).flags.find? name).isSome = true ↔
      ∃ value, (name, value) ∈ members

/-- Reports are absorbed section by section, and integers of all documents that are read fit 64 bits. -/
theorem report_absorbed_by_sections :
    (∀ document, SectionBySection document) ∧
      ∀ {text document}, Json.parse text = .ok document → document.Bounded := by
  refine ⟨fun document => ?_, Json.parse_bounded⟩
  refine
    { registers := Section.lawful_registers.governed isSome_registers? document
      flags := Section.lawful_flags.governed isSome_flags? document
      memory := Section.lawful_memory.governed isSome_memory? document
      nothing := ?_
      register_names := ?_
      flag_names := ?_ }
  · rw [processorUpdate?_eq_none_iff, Section.reported?_eq_none_iff isSome_registers?,
      Section.reported?_eq_none_iff isSome_flags?, Section.reported?_eq_none_iff isSome_memory?]
    rfl
  · intro bounded members found processor name
    rw [absorb_eq, Section.registers.reported?_of_get? found]
    exact isSome_find?_registers? (bounded.get? found) rfl
  · intro members found processor name
    rw [absorb_eq, Section.flags.reported?_of_get? found]
    exact isSome_find?_flags? rfl

/-- A report of a register with a value and of one without. -/
def halfKnown : Json :=
  .object [("registers", .object [("A", .number (.integer 10)), ("B", .null)])]

theorem report_absorbed_by_sections_half_known :
    ∃ text, Json.parse text = .ok halfKnown ∧
      ∀ processor, ((absorb halfKnown processor).registers.find? "A").isSome = true ∧
        ((absorb halfKnown processor).registers.find? "B").isSome = false := by
  have plain : halfKnown.Plain Json.maxDepth := by
    apply Json.Plain.object
    intro member listed
    rw [List.mem_singleton.1 listed]
    apply Json.Plain.object
    intro register listed
    rcases List.mem_cons.1 listed with rfl | listed
    · exact .number (by decide)
    · rw [List.mem_singleton.1 listed]
      exact .null
  have parsed : Json.parse (halfKnown.indented ++ "\n") = .ok halfKnown :=
    Json.parse_indented plain
  refine ⟨_, parsed, fun processor => ?_⟩
  have names := (report_absorbed_by_sections.1 halfKnown).register_names
    (report_absorbed_by_sections.2 parsed) _ rfl processor
  constructor
  · exact (names "A").2 ⟨_, List.mem_cons_self, .integer (by decide)⟩
  · apply Bool.eq_false_iff.2
    intro shown
    rcases (names "B").1 shown with ⟨value, listed, shown⟩
    have null : value = .null := by simpa using listed
    rw [null] at shown
    cases shown

/-- Registers that are null or negative are left out.  A list is no report of flags, but an empty
list empties the memory. -/
example : absorb (.object [("flags", .array []), ("memory", .array []),
      ("registers", .object [("A", .number (.integer 10)), ("B", .null),
        ("C", .number (.integer (-1))), ("PC", .number (.integer 8192))])]) .powerOn =
    { registers := .ofList [("A", "0A"), ("PC", "2000")]
      flags := Processor.powerOn.flags
      memory := .empty } := by
  rfl

end Simulator
end AsmNotebook
