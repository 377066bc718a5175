import AsmNotebook.Json.Format
import AsmNotebook.Proofs.Json.Tree

namespace AsmNotebook
namespace Json
namespace Format

/-!
# What formats find in documents

`Finds` says of one document that a format finds a value in it, whether the
format reads the indented form of the document or decodes the tree.  There is
a rule for each way to make a format.  For a record, `Holds` goes through the
fields and says of each which member holds it, or that it is left out and has
a default.
-/

/-- The format finds the value in the document, which is nested at most so deep. -/
structure Finds {α : Type} (format : Format α) (depth : Nat) (document : Json) (value : α) : Prop
    where
  plain : document.Plain depth
  read : ReadsAs (format.read depth) document value
  decode : ∀ origin, format.decode origin document = .ok value

variable {α β : Type} {format : Format α} {depth : Nat} {document : Json}

/-- The quoted name of an alternative is read for the alternative. -/
theorem readName_of_choose {names : List (String × α)} {name : String} {value : α}
    {cs rest : List Char} (chosen : choose names name = .ok value)
    (ahead : skipSpace cs = writeText name ++ rest) : readName names cs = .ok (value, rest) := by
  have read : readText (name.toList.flatMap escapeChar ++ '"' :: rest) = .ok (name, rest) :=
    readText_escaped name
  simp [readName, ahead, writeText, read, chosen]

namespace Finds

theorem text (value : String) : Finds .text depth (.text value) value where
  plain := .text value
  read := by
    intro level cs rest _ ahead
    have read : readText (value.toList.flatMap escapeChar ++ '"' :: rest) = .ok (value, rest) :=
      readText_escaped value
    simp [Format.text, ahead, indentedChars, writeText, read]
  decode _ := rfl

theorem map {f : α → β} {value : α} {guise : β} (finds : Finds format depth document value)
    (same : f value = guise) : Finds (format.map f) depth document guise where
  plain := finds.plain
  read := by
    intro level cs rest ends ahead
    simp only [Format.map, finds.read level cs rest ends ahead, Except.map, same]
  decode origin := by
    simp only [Format.map, finds.decode, Except.map, same]

theorem unsigned {n bound : Nat} (name : String) (fits : n ≤ maxUnsigned) (small : n < bound) :
    Finds (.unsigned bound name) depth (.number (.integer n)) n where
  plain := .number fits
  read := by
    intro level cs rest ends ahead
    rcases toDigits_cons n with ⟨c, digits, written, digit⟩
    have read := readNumber_toDigits fits ends
    rw [indentedChars, write_integer] at ahead
    rw [written, List.cons_append] at ahead read
    simp [Format.unsigned, ahead, isDigit_ne digit, digit, read, unsignedOf, small]
  decode _ := by
    simp [Format.unsigned, unsignedOf, small]

theorem word32 (value : UInt32) :
    Finds .word32 depth (.number (.integer value.toNat)) value := by
  have small : value.toNat < UInt32.size := value.toNat_lt
  have fits : value.toNat ≤ maxUnsigned := Nat.le_trans (Nat.le_of_lt small) (by decide)
  exact (unsigned "u32" fits small).map UInt32.ofNat_toNat

theorem word64 (value : UInt64) :
    Finds .word64 depth (.number (.integer value.toNat)) value := by
  have small : value.toNat < UInt64.size := value.toNat_lt
  have fits : value.toNat ≤ maxUnsigned := Nat.le_of_lt_succ small
  exact (unsigned "u64" fits small).map UInt64.ofNat_toNat

theorem nullable_none : Finds format.nullable depth .null none where
  plain := .null
  read := by
    intro level cs rest _ ahead
    simp only [Format.nullable, ahead]
    rfl
  decode _ := rfl

theorem nullable_some {value : α} (finds : Finds format depth document value)
    (present : document ≠ .null) : Finds format.nullable depth document (some value) where
  plain := finds.plain
  read := by
    intro level cs rest ends ahead
    rcases finds.plain.begins_not_null present level with ⟨c, tail, written, other⟩
    have read := finds.read.here finds.plain level ends
    rw [written, List.cons_append] at ahead read
    simp [Format.nullable, ahead, other, read, Except.map]
  decode origin := by
    cases document with
    | null => exact absurd rfl present
    | bool | number | text | array | object =>
      simp only [Format.nullable, finds.decode, Except.map]

theorem list {items : List β} {encode : β → Json} {kept : β → α}
    (finds : ∀ item ∈ items, Finds format depth (encode item) (kept item)) :
    Finds format.list (depth + 1) (.array (items.map encode)) (items.map kept) where
  plain := by
    refine .array fun document member => ?_
    rcases List.mem_map.1 member with ⟨item, there, rfl⟩
    exact (finds item there).plain
  read := by
    intro level cs rest _ ahead
    have read : foldItems (pushItem (format.read depth))
        ((arrayBody level (items.map encode) ++ rest).length + 1) true []
          (arrayBody level (items.map encode) ++ rest) =
        .ok ((items.map kept).reverse, ']' :: rest) :=
      foldItems_push level rest (fun item member => (finds item member).plain)
        (fun item member => (finds item member).read)
    rw [indentedChars_array, List.cons_append] at ahead
    simp only [Format.list, ahead, read, Except.map, List.reverse_reverse, endArray_close]
  decode origin := by
    change (items.map encode).mapM (format.decode origin) = _
    induction items with
    | nil => rfl
    | cons item items inductionHypothesis =>
      have others := inductionHypothesis fun item later => finds item (List.mem_cons_of_mem _ later)
      rw [List.map_cons, List.mapM_cons, (finds item List.mem_cons_self).decode, others]
      rfl

theorem listOf {encode : α → Json} (finds : ∀ item, Finds format depth (encode item) item)
    (items : List α) : Finds format.list (depth + 1) (.array (items.map encode)) items := by
  have each : ∀ item ∈ items, Finds format depth (encode item) (id item) := fun item _ => finds item
  have whole := list each
  rwa [List.map_id] at whole

theorem choice {names : List (String × α)} {name : String} {value : α}
    (chosen : choose names name = .ok value) : Finds (.choice names) depth (.text name) value where
  plain := .text name
  read := by
    intro level cs rest _ ahead
    have read : readName names (writeText name ++ rest) = .ok (value, rest) :=
      readName_of_choose chosen rfl
    rw [writeText, List.cons_append, List.cons_append] at read
    simpa [Format.choice, ahead, indentedChars, writeText] using read
  decode _ := chosen

end Finds
end Format

namespace Fields

open Format (Finds)

variable {α : Type} {depth : Nat}

/-- The names of the fields, in their order. -/
def names : {α : Type} → Fields α → List String
  | _, .nil => []
  | _, .cons name _ _ rest => name :: rest.names

/-- The members hold the values of a record, in the order of its fields.  A field that is left out
has its default. -/
inductive Holds (depth : Nat) : {α : Type} → Fields α → List (String × Json) → α → Prop
  | nil : Holds depth .nil [] ()
  | present {α β : Type} {name : String} {format : Format α} {absent : Option α} {rest : Fields β}
      {document : Json} {value : α} {members : List (String × Json)} {values : β}
      (finds : Finds format depth document value) (others : Holds depth rest members values) :
      Holds depth (.cons name format absent rest) ((name, document) :: members) (value, values)
  | absent {α β : Type} {name : String} {format : Format α} {value : α} {rest : Fields β}
      {members : List (String × Json)} {values : β} (others : Holds depth rest members values) :
      Holds depth (.cons name format (some value) rest) members (value, values)

theorem Holds.plain {fields : Fields α} {members : List (String × Json)} {value : α}
    (holds : Holds depth fields members value) : ∀ member ∈ members, member.2.Plain depth := by
  induction holds with
  | nil => exact nofun
  | present finds _ inductionHypothesis =>
    exact List.forall_mem_cons.2 ⟨finds.plain, inductionHypothesis⟩
  | absent _ inductionHypothesis => exact inductionHypothesis

theorem Holds.names {fields : Fields α} {members : List (String × Json)} {value : α}
    (holds : Holds depth fields members value) : ∀ member ∈ members, member.1 ∈ fields.names := by
  induction holds with
  | nil => exact nofun
  | present _ _ inductionHypothesis =>
    refine List.forall_mem_cons.2 ⟨List.mem_cons_self, fun member later => ?_⟩
    exact List.mem_cons_of_mem _ (inductionHypothesis member later)
  | absent _ inductionHypothesis =>
    exact fun member later => List.mem_cons_of_mem _ (inductionHypothesis member later)

/-- Members fill slots one after another. -/
inductive Fills (depth : Nat) (fields : Fields α) :
    fields.Slots → List (String × Json) → fields.Slots → Prop
  | nil {slots : fields.Slots} : Fills depth fields slots [] slots
  | cons {slots next last : fields.Slots} {name : String} {document : Json}
      {members : List (String × Json)} (format : Format fields.Slots)
      (free : fields.place slots name = .free format.read format.decode)
      (finds : Finds format depth document next) (others : Fills depth fields next members last) :
      Fills depth fields slots ((name, document) :: members) last

/-- What fills the slots behind a field leaves the slot of the field alone. -/
theorem Fills.behind {β : Type} {name : String} {format : Format β} {absent : Option β}
    {rest : Fields α} {slots last : rest.Slots} {members : List (String × Json)}
    (fills : Fills depth rest slots members last) (slot : Option β)
    (new : ∀ member ∈ members, member.1 ≠ name) :
    Fills depth (.cons name format absent rest) (slot, slots) members (slot, last) := by
  induction fills with
  | nil => exact .nil
  | @cons slots next last name' document members format' free finds others inductionHypothesis =>
    have other : name' ≠ name := new _ List.mem_cons_self
    refine .cons (format'.map fun slots => (slot, slots)) ?_ (finds.map rfl)
      (inductionHypothesis fun member later => new member (List.mem_cons_of_mem _ later))
    simp only [place, if_neg other, free]
    rfl

/-- The members of a record fill its slots, and the slots are those of the record. -/
theorem Holds.fills {fields : Fields α} {members : List (String × Json)} {value : α}
    (holds : Holds depth fields members value) (distinct : fields.names.Nodup) :
    ∃ slots, Fills depth fields fields.empty members slots ∧ fields.complete slots = .ok value := by
  induction holds with
  | nil => exact ⟨(), .nil, rfl⟩
  | @present α β name format absent rest document value members values finds others
      inductionHypothesis =>
    rcases List.nodup_cons.1 distinct with ⟨new, distinct⟩
    rcases inductionHypothesis distinct with ⟨slots, fills, complete⟩
    have behind : ∀ member ∈ members, member.1 ≠ name := fun member there same =>
      new (same ▸ others.names member there)
    refine ⟨(some value, slots), ?_, ?_⟩
    · refine .cons (format.map fun value => (some value, rest.empty)) ?_ (finds.map rfl)
        (fills.behind (some value) behind)
      simp only [place, empty, if_true]
      rfl
    · simp only [Fields.complete, complete]
      rfl
  | @absent α β name format value rest members values others inductionHypothesis =>
    rcases List.nodup_cons.1 distinct with ⟨new, distinct⟩
    rcases inductionHypothesis distinct with ⟨slots, fills, complete⟩
    have behind : ∀ member ∈ members, member.1 ≠ name := fun member there same =>
      new (same ▸ others.names member there)
    refine ⟨(none, slots), fills.behind none behind, ?_⟩
    simp only [Fields.complete, complete]
    rfl

theorem Fills.decode {fields : Fields α} {slots last : fields.Slots}
    {members : List (String × Json)} (fills : Fills depth fields slots members last)
    (origin : Origin) : members.foldlM (fields.decodeSlot origin) slots = .ok last := by
  induction fills with
  | nil => rfl
  | @cons slots next last name document members format free finds others inductionHypothesis =>
    simp only [List.foldlM_cons, decodeSlot, free, finds.decode]
    exact inductionHypothesis

/-- A record is decoded from the members that hold it. -/
theorem Holds.decodeMembers {fields : Fields α} {members : List (String × Json)} {value : α}
    (holds : Holds depth fields members value) (distinct : fields.names.Nodup) (origin : Origin) :
    fields.decodeMembers origin members = .ok value := by
  rcases holds.fills distinct with ⟨slots, fills, complete⟩
  rw [Fields.decodeMembers, fills.decode origin]
  exact complete

theorem Fills.steps {fields : Fields α} {slots last : fields.Slots}
    {members : List (String × Json)} (fills : Fills depth fields slots members last)
    (level : Nat) : MemberSteps (fields.readSlot depth) level slots members last := by
  induction fills with
  | nil => exact .nil
  | @cons slots next last name document members format free finds others inductionHypothesis =>
    refine .cons (fun rest ends => ?_) inductionHypothesis
    simp only [readSlot, free]
    exact finds.read.behindSpace finds.plain level ends

theorem Holds.readMembers {fields : Fields α} {members : List (String × Json)} {value : α}
    (holds : Holds depth fields members value) (distinct : fields.names.Nodup) (level : Nat)
    (rest : List Char) :
    fields.readMembers depth (objectBody level members ++ rest) = .ok (value, '\x7d' :: rest) := by
  rcases holds.fills distinct with ⟨slots, fills, complete⟩
  rw [Fields.readMembers, (fills.steps (level + 1)).foldObject]
  simp only [complete]

end Fields

namespace Format

variable {α : Type} {depth : Nat}

namespace Finds

theorem record {fields : Fields α} {members : List (String × Json)} {value : α} (name : String)
    (holds : Fields.Holds depth fields members value) (distinct : fields.names.Nodup) :
    Finds (.record name fields) (depth + 1) (.object members) value where
  plain := .object holds.plain
  read := by
    intro level cs rest _ ahead
    rw [indentedChars_object, List.cons_append] at ahead
    simp [Format.record, ahead, holds.readMembers distinct level rest, endObject_close]
  decode origin := holds.decodeMembers distinct origin

/-- A record is found with its fields put together. -/
theorem recordOf {β : Type} {fields : Fields β} {members : List (String × Json)} {values : β}
    {f : β → α} {value : α} (name : String) (holds : Fields.Holds depth fields members values)
    (same : f values = value) (distinct : fields.names.Nodup) :
    Finds ((Format.record name fields).map f) (depth + 1) (.object members) value :=
  (record name holds distinct).map same

end Finds

section

variable {tag : String} {variants : List (Variant α)} {others : List (String × Json)}

/-- The members beside the tag are set aside in their order. -/
theorem splitTag_others {variant : Option (Variant α)}
    (untagged : ∀ member ∈ others, member.1 ≠ tag) (carried : List (String × Json)) :
    splitTag tag variants others variant carried = .ok (variant, carried.reverse ++ others) := by
  induction others generalizing carried with
  | nil => simp [splitTag]
  | cons member others inductionHypothesis =>
    rcases member with ⟨name, value⟩
    have other : name ≠ tag := untagged (name, value) List.mem_cons_self
    simp only [splitTag, if_neg other]
    rw [inductionHypothesis fun member later => untagged member (List.mem_cons_of_mem _ later)]
    simp

theorem readTagged_others {variant : Option (Variant α)}
    (untagged : ∀ member ∈ others, member.1 ≠ tag)
    (plain : ∀ member ∈ others, member.2.Plain depth) (level : Nat)
    (carried : List (String × Json)) :
    MemberSteps (readTagged tag variants depth) level (variant, carried) others
      (variant, others.reverse ++ carried) := by
  induction others generalizing carried with
  | nil => exact .nil
  | cons member others inductionHypothesis =>
    rcases member with ⟨name, value⟩
    have other : name ≠ tag := untagged (name, value) List.mem_cons_self
    have here : value.Plain depth := plain (name, value) List.mem_cons_self
    rw [List.reverse_cons, List.append_assoc]
    refine .cons (fun rest ends => ?_) (inductionHypothesis
      (fun member later => untagged member (List.mem_cons_of_mem _ later))
      (fun member later => plain member (List.mem_cons_of_mem _ later)) ((name, value) :: carried))
    have read := here.readValue.behindSpace here level ends
    simp only [readTagged, if_neg other]
    change (readValue depth (' ' :: (indentedChars level value ++ rest)) >>= _) = _
    rw [read]
    rfl

theorem readTaggedMembers_eq {name : String} {variant : Variant α}
    (chosen : choose (variantNames variants) name = .ok variant)
    (untagged : ∀ member ∈ others, member.1 ≠ tag)
    (plain : ∀ member ∈ others, member.2.Plain depth) (level : Nat) (rest : List Char) :
    readTaggedMembers tag variants depth (objectBody level ((tag, .text name) :: others) ++ rest) =
      .ok ((variant, .object others), '\x7d' :: rest) := by
  have steps : MemberSteps (readTagged tag variants depth) (level + 1) (none, [])
      ((tag, .text name) :: others) (some variant, others.reverse ++ []) := by
    refine .cons (fun rest _ => ?_) (readTagged_others untagged plain (level + 1) [])
    have read : readName (variantNames variants) (' ' :: (writeText name ++ rest)) =
        .ok (variant, rest) := readName_of_choose chosen rfl
    simp only [readTagged, if_true]
    change (readName (variantNames variants) (' ' :: (writeText name ++ rest)) >>= _) = _
    rw [read]
    rfl
  rw [readTaggedMembers, steps.foldObject]
  simp

/-- A tagged choice is found in an object that begins with the tag, if the alternative makes the
value from the other members. -/
theorem Finds.tagged {owner name : String} {variant : Variant α} {value : α}
    (chosen : choose (variantNames variants) name = .ok variant)
    (untagged : ∀ member ∈ others, member.1 ≠ tag)
    (plain : ∀ member ∈ others, member.2.Plain depth)
    (decoded : variant.decode (.object others) = .ok value) :
    Finds (.tagged owner tag variants) (depth + 1) (.object ((tag, .text name) :: others))
      value where
  plain := .object (List.forall_mem_cons.2 ⟨.text name, plain⟩)
  read := by
    intro level cs rest _ ahead
    have members := readTaggedMembers_eq chosen untagged plain level rest
    rw [indentedChars_object, List.cons_append] at ahead
    simp [Format.tagged, ahead, members, endObject_close, decoded]
  decode origin := by
    have split : splitTag tag variants ((tag, .text name) :: others) none [] =
        .ok (some variant, others) := by
      simp only [splitTag, if_true, chosen]
      exact splitTag_others untagged []
    change (tagged? owner tag variants (.object ((tag, .text name) :: others)) >>= _) = _
    simp only [tagged?, split]
    exact decoded

/-- An alternative with fields of its own is found beside its tag. -/
theorem Finds.fieldsVariant {β : Type} {owner owner' label name : String} {fields : Fields β}
    {f : β → α} {values : β} {value : α}
    (chosen : choose (variantNames variants) name =
      .ok (Format.fieldsVariant owner' label name fields f))
    (holds : Fields.Holds depth fields others values) (same : f values = value)
    (distinct : (tag :: fields.names).Nodup) :
    Finds (.tagged owner tag variants) (depth + 1) (.object ((tag, .text name) :: others))
      value := by
  rcases List.nodup_cons.1 distinct with ⟨new, distinct⟩
  refine .tagged chosen (fun member there same => new (same ▸ holds.names member there))
    holds.plain ?_
  change (fields.decodeMembers .members others).map f = _
  rw [holds.decodeMembers distinct, ← same]
  rfl

/-- An alternative that is a record of its own is found beside its tag. -/
theorem Finds.recordVariant {β γ : Type} {owner name kind : String} {fields : Fields γ}
    {g : γ → β} {f : β → α} {values : γ} {value : α}
    (chosen : choose (variantNames variants) name =
      .ok (Format.recordVariant name ((Format.record kind fields).map g) f))
    (holds : Fields.Holds depth fields others values) (same : f (g values) = value)
    (distinct : (tag :: fields.names).Nodup) :
    Finds (.tagged owner tag variants) (depth + 1) (.object ((tag, .text name) :: others))
      value := by
  rcases List.nodup_cons.1 distinct with ⟨new, distinct⟩
  refine .tagged chosen (fun member there same => new (same ▸ holds.names member there))
    holds.plain ?_
  change ((fields.decodeMembers .members others).map g).map f = _
  rw [holds.decodeMembers distinct, ← same]
  rfl

end

end Format

end Json
end AsmNotebook
