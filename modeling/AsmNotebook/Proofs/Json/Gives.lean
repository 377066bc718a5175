import AsmNotebook.Json.Format
import AsmNotebook.Proofs.Json.Bounds

namespace AsmNotebook
namespace Json

/-!
# What formats give

`Finds` says which value a format finds in a document that was written.  Of a
text that somebody else wrote it says nothing, and yet not every value can come
from it: a format that changes what it reads gives changed values only.

`Gives` says of a format that all its values have a property, whatever they are
read from.  For a record it goes through the fields, which must keep it of the
values that are read and of those that stand for absent ones.  Members come in
any order, so the property is carried along by the slots that are filled.
-/

/-- Every value that is read has a property. -/
def Format.Gives {α : Type} (format : Format α) (P : α → Prop) : Prop :=
  ∀ depth cs, Yields P (format.read depth cs)

/-- Every value of a record has a property, and so have the slots that are filled with parts
of it. -/
inductive Fields.Gives : {α : Type} → (fields : Fields α) → (α → Prop) → (fields.Slots → Prop) → Prop
  | nil : Gives .nil (fun _ => True) (fun _ => True)
  | cons {α β : Type} {name : String} {format : Format α} {absent : Option α} {rest : Fields β}
      {P : α → Prop} {Q : β → Prop} {S : rest.Slots → Prop} (gives : format.Gives P)
      (default : ∀ value ∈ absent, P value) (others : Gives rest Q S) :
      Gives (.cons name format absent rest) (fun values => P values.1 ∧ Q values.2)
        (fun slots : Option α × rest.Slots => (∀ value ∈ slots.1, P value) ∧ S slots.2)

variable {α β : Type}

/-- A value of another kind is not given as one of the kind that is asked for. -/
theorem yields_readOther {P : α → Prop} (expected : String) (cs : List Char) :
    Yields P (readOther expected cs) := by
  unfold readOther
  dsimp only
  split
  · exact yields_error _
  · split_ifs
    · exact yields_error _
    · exact yields_error _
    · split
      · exact yields_error _
      · exact yields_error _

namespace Format

variable {format : Format α} {P : α → Prop} {Q : β → Prop}

theorem gives_any (format : Format α) : format.Gives fun _ => True :=
  fun _ _ _ _ _ => trivial

theorem Gives.map (gives : format.Gives P) {f : α → β} (carries : ∀ value, P value → Q (f value)) :
    (format.map f).Gives Q :=
  fun depth cs => (gives depth cs).map fun read => carries read.1

theorem Gives.parse (gives : format.Gives P) {text : String} {value : α}
    (parsed : format.parse text = .ok value) : P value :=
  (gives maxDepth text.toList).whole parsed

end Format

namespace Fields

/-- A field of which nothing is asked. -/
theorem Gives.other {name : String} {format : Format α} {absent : Option α} {rest : Fields β}
    {Q : β → Prop} {S : rest.Slots → Prop} (others : Gives rest Q S) :
    Gives (.cons name format absent rest) (fun values => True ∧ Q values.2)
      (fun slots : Option α × rest.Slots => (∀ value ∈ slots.1, True) ∧ S slots.2) :=
  .cons (Format.gives_any format) (fun _ _ => trivial) others

variable {fields : Fields α} {P : α → Prop} {S : fields.Slots → Prop}

theorem Gives.empty (gives : Gives fields P S) : S fields.empty := by
  induction gives with
  | nil => trivial
  | cons _ _ _ inductionHypothesis => exact ⟨nofun, inductionHypothesis⟩

theorem Gives.complete (gives : Gives fields P S) {slots : fields.Slots} (holds : S slots)
    {value : α} (whole : fields.complete slots = .ok value) : P value := by
  induction gives with
  | nil => trivial
  | @cons α β name format absent rest P Q S given default others inductionHypothesis =>
    rcases slots with ⟨slot, slots⟩
    simp only [Fields.complete] at whole
    have together (first : α) (good : P first)
        (whole : (rest.complete slots).bind (fun values => .ok (first, values)) = .ok value) :
        P value.1 ∧ Q value.2 := by
      cases behind : rest.complete slots with
      | error fault =>
        rw [behind] at whole
        cases whole
      | ok values =>
        rw [behind] at whole
        cases whole
        exact ⟨good, inductionHypothesis holds.2 behind⟩
    cases slot with
    | some first => exact together first (holds.1 first rfl) whole
    | none =>
      cases absent with
      | some first => exact together first (default first rfl) whole
      | none => cases whole

/-- A field that is read keeps what holds of the slots. -/
theorem Gives.place (gives : Gives fields P S) {slots : fields.Slots} (holds : S slots)
    {wanted : String} {read : Nat → Reader fields.Slots}
    {decode : Origin → Json → Except Fault fields.Slots}
    (free : fields.place slots wanted = .free read decode) (depth : Nat) (cs : List Char) :
    Yields S (read depth cs) := by
  induction gives with
  | nil => cases free
  | @cons α β name format absent rest P Q S given default others inductionHypothesis =>
    rcases slots with ⟨slot, slots⟩
    simp only [Fields.place] at free
    split at free
    · cases slot with
      | some => cases free
      | none =>
        cases free
        refine (given depth cs).map fun read good => ⟨?_, holds.2⟩
        rintro _ ⟨⟩
        exact good
    · cases behind : rest.place slots wanted with
      | unknown | taken =>
        rw [behind] at free
        cases free
      | free read' decode' =>
        rw [behind] at free
        cases free
        exact (inductionHypothesis holds.2 behind).map fun read good => ⟨holds.1, good⟩

theorem Gives.readSlot (gives : Gives fields P S) (depth : Nat) (slots : fields.Slots)
    (name : String) (cs : List Char) (holds : S slots) :
    Yields S (fields.readSlot depth slots name cs) := by
  unfold Fields.readSlot
  split
  · exact yields_error _
  · exact yields_behind fun rest => yields_behind fun rest => yields_ok holds
  · next read decode free => exact yields_behind fun rest => gives.place holds free depth rest

theorem Gives.readMembers (gives : Gives fields P S) (depth : Nat) (cs : List Char) :
    Yields P (fields.readMembers depth cs) := by
  have filled := foldMembers_yields (gives.readSlot depth) (cs.length + 1) true gives.empty cs
  unfold Fields.readMembers
  cases found : foldMembers (fields.readSlot depth) (cs.length + 1) true fields.empty cs with
  | error stop => exact yields_error stop
  | ok pair =>
    dsimp only
    split
    · next values whole =>
      exact yields_ok (gives.complete (filled pair.1 pair.2 found) whole)
    · exact yields_error _

/-- Items of an array are read in the order of the fields. -/
theorem Gives.readItems (gives : Gives fields P S) (depth : Nat) (expected : String) (index : Nat)
    (cs : List Char) : Yields P (fields.readItems depth expected index cs) := by
  induction gives generalizing index cs with
  | nil => exact yields_ok trivial
  | @cons α β name format absent rest P Q S given default others inductionHypothesis =>
    simp only [Fields.readItems]
    split
    · exact yields_error _
    · cases absent with
      | none => exact yields_error _
      | some first =>
        exact (inductionHypothesis (index + 1) _).map fun _ good => ⟨default first rfl, good⟩
    · next item _ _ =>
      cases found : format.read depth item with
      | error stop => exact yields_error stop
      | ok pair =>
        have first := given depth item pair.1 pair.2 found
        exact (inductionHypothesis (index + 1) pair.2).map fun _ good => ⟨first, good⟩

end Fields

/-- A record is read from an object or from an array. -/
theorem Format.Gives.record {fields : Fields α} {P : α → Prop} {S : fields.Slots → Prop}
    (gives : Fields.Gives fields P S) (name : String) : (Format.record name fields).Gives P := by
  intro depth cs
  unfold Format.record
  dsimp only
  split
  · exact yields_error _
  · split
    · split
      · exact yields_error _
      · split
        · exact (gives.readItems _ _ 0 _).endArray
        · exact (gives.readMembers _ _).endObject
    · exact yields_readOther _ _

end Json
end AsmNotebook
