import AsmNotebook.Json.Reader
import AsmNotebook.Proofs.Json.Canonical
import AsmNotebook.Proofs.SortedMap

namespace AsmNotebook

/-- An integer of 64 bits: one below zero has a sign, and the others have none.  Floating-point
numbers are what they are. -/
def Number.Bounded : Number → Prop
  | .integer value => -9223372036854775808 ≤ value ∧ value ≤ 18446744073709551615
  | .real _ => True

namespace Json

/-!
# Integers of documents that were read

A tree can hold any integer, but a document that was read cannot.  The reader
gathers digits only while their number fits 64 bits, and what is left over or
does not fit becomes a floating-point number.

`Yields` says this of one reader after another: whatever it ends with, if it
ends with a value, has a property.
-/

variable {α β : Type} {P : α → Prop} {Q : β → Prop} {result : Except Stop (α × List Char)}
variable {cs rest : List Char} {negative : Bool} {significand : Nat} {exponent : Int}

/-- Every integer of a document is one of 64 bits. -/
inductive Bounded : Json → Prop
  | null : Bounded .null
  | bool (value : Bool) : Bounded (.bool value)
  | number {value : Number} (bounded : value.Bounded) : Bounded (.number value)
  | text (value : String) : Bounded (.text value)
  | array {items : List Json} (bounded : ∀ item ∈ items, Bounded item) : Bounded (.array items)
  | object {members : List (String × Json)} (bounded : ∀ member ∈ members, Bounded member.2) :
      Bounded (.object members)

/-- What a reader ends with, if it does not stop, has a property. -/
def Yields (P : α → Prop) (result : Except Stop (α × List Char)) : Prop :=
  ∀ value rest, result = .ok (value, rest) → P value

theorem yields_error (stop : Stop) : Yields P (.error stop) := by
  rintro _ _ ⟨⟩

theorem yields_ok {value : α} (holds : P value) : Yields P (.ok (value, rest)) := by
  rintro _ _ ⟨⟩
  exact holds

theorem Yields.map (yields : Yields P result) {f : α × List Char → β × List Char}
    (carries : ∀ read, P read.1 → Q (f read).1) : Yields Q (result.map f) := by
  cases result with
  | error stop => exact yields_error stop
  | ok read => exact yields_ok (carries read (yields read.1 read.2 rfl))

theorem Yields.bind (yields : Yields P result)
    {next : α × List Char → Except Stop (β × List Char)}
    (carries : ∀ read, P read.1 → Yields Q (next read)) : Yields Q (result >>= next) := by
  cases result with
  | error stop => exact yields_error stop
  | ok read => exact carries read (yields read.1 read.2 rfl)

/-- A value that is read behind something else. -/
theorem yields_behind {front : Except Stop (List Char)}
    {next : List Char → Except Stop (α × List Char)} (yields : ∀ rest, Yields P (next rest)) :
    Yields P (front >>= next) := by
  cases front with
  | error stop => exact yields_error stop
  | ok rest => exact yields rest

/-- A value with what is read behind it. -/
theorem yields_before {value : α} (holds : P value) {behind : Except Stop (List Char)} :
    Yields P (behind.map (value, ·)) := by
  cases behind with
  | error stop => exact yields_error stop
  | ok rest => exact yields_ok holds

/-- What a whole text is read as is what the reader ends with. -/
theorem Yields.whole {reader : Reader α} {text : String} {value : α}
    (yields : Yields P (reader text.toList)) (whole : readWhole reader text = .ok value) :
    P value := by
  unfold readWhole at whole
  cases found : reader text.toList with
  | error stop =>
    rw [found] at whole
    cases whole
  | ok pair =>
    simp only [found] at whole
    split at whole
    · cases whole
      exact yields pair.1 pair.2 found
    · cases whole

/-! ## Numbers -/

/-- What is gathered fits 64 bits. -/
theorem gather_le (digits : List Char) (fits : significand ≤ maxUnsigned) :
    (gather significand digits).1 ≤ maxUnsigned := by
  induction digits generalizing significand with
  | nil => exact fits
  | cons digit digits inductionHypothesis =>
    unfold gather
    dsimp only
    split
    · next fits' => exact inductionHypothesis fits'
    · exact fits

theorem realOf_bounded : Yields Number.Bounded (realOf negative significand exponent rest) := by
  unfold realOf
  split
  · exact yields_ok trivial
  · exact yields_error _

theorem readExponentDigits_bounded (up : Bool) (power : Nat) (cs : List Char) :
    Yields Number.Bounded (readExponentDigits negative significand exponent up power cs) := by
  induction cs generalizing power with
  | nil => exact realOf_bounded
  | cons c rest inductionHypothesis =>
    unfold readExponentDigits
    split
    · dsimp only
      split
      · split
        · exact yields_error _
        · exact yields_ok trivial
      · exact inductionHypothesis _
    · exact realOf_bounded

theorem readExponent_bounded :
    Yields Number.Bounded (readExponent negative significand exponent cs) := by
  unfold readExponent
  dsimp only
  split
  · exact yields_error _
  · split
    · exact readExponentDigits_bounded _ _ _
    · exact yields_error _

theorem readExponent?_bounded :
    Yields Number.Bounded (readExponent? negative significand exponent cs) := by
  unfold readExponent?
  split
  · exact readExponent_bounded
  · exact readExponent_bounded
  · exact realOf_bounded

theorem readFraction_bounded :
    Yields Number.Bounded (readFraction negative significand exponent cs) := by
  unfold readFraction
  dsimp only
  split
  · split <;> exact yields_error _
  · exact readExponent?_bounded

/-- A number without fraction is an integer only if it fits. -/
theorem wholeOf_bounded {left : Nat} (fits : significand ≤ maxUnsigned) :
    Yields Number.Bounded (wholeOf negative significand left rest) := by
  have small : significand ≤ 18446744073709551615 := fits
  unfold wholeOf
  split
  · exact realOf_bounded
  · split
    · split
      · exact realOf_bounded
      · next inside =>
        have above : significand ≤ 9223372036854775808 := by simp at inside; omega
        apply yields_ok
        constructor <;> omega
    · apply yields_ok
      constructor <;> omega

theorem readNumber_bounded : Yields Number.Bounded (readNumber negative cs) := by
  unfold readNumber
  split
  · exact yields_error _
  · next c rest =>
    split
    · next digit =>
      have first : c.toNat - 48 ≤ maxUnsigned := by
        have nine : c.toNat ≤ 57 := (Bool.and_eq_true_iff.1 digit).2 |> of_decide_eq_true
        have large : 57 ≤ maxUnsigned := by decide
        omega
      dsimp only
      have gathered := gather_le (if c = '0' then [] else rest.takeWhile Char.isDigit) first
      split
      · exact readFraction_bounded
      · exact readExponent_bounded
      · exact readExponent_bounded
      · exact wholeOf_bounded gathered
      · split
        · exact yields_error _
        · exact wholeOf_bounded gathered
    · exact yields_error _

/-! ## Trees -/

section

variable {σ : Type} {S : σ → Prop}

/-- What every item keeps, all items keep. -/
theorem foldItems_yields {step : σ → Reader σ}
    (keeps : ∀ state cs, S state → Yields S (step state cs)) (fuel : Nat) (first : Bool) {state : σ}
    (holds : S state) (cs : List Char) : Yields S (foldItems step fuel first state cs) := by
  induction fuel generalizing first state cs with
  | zero => exact yields_error _
  | succ fuel inductionHypothesis =>
    unfold foldItems
    split
    · exact yields_error _
    · exact yields_ok holds
    · next item _ _ =>
      cases found : step state item with
      | error stop => exact yields_error stop
      | ok pair => exact inductionHypothesis false (keeps state item holds pair.1 pair.2 found) _

/-- What every member keeps, all members keep. -/
theorem foldMembers_yields {step : σ → String → Reader σ}
    (keeps : ∀ state name cs, S state → Yields S (step state name cs)) (fuel : Nat) (first : Bool)
    {state : σ} (holds : S state) (cs : List Char) :
    Yields S (foldMembers step fuel first state cs) := by
  induction fuel generalizing first state cs with
  | zero => exact yields_error _
  | succ fuel inductionHypothesis =>
    unfold foldMembers
    split
    · exact yields_error _
    · exact yields_ok holds
    · split
      · exact yields_error _
      · next name rest _ =>
        cases found : step state name rest with
        | error stop => exact yields_error stop
        | ok pair =>
          exact inductionHypothesis false (keeps state name rest holds pair.1 pair.2 found) _

end

theorem Yields.endArray (yields : Yields P result) : Yields P (endArray result) := by
  rcases result with stop | ⟨value, rest⟩
  · unfold Json.endArray
    dsimp only
    split <;> exact yields_error _
  · exact yields_before (yields value rest rfl)

theorem Yields.endObject (yields : Yields P result) : Yields P (endObject result) := by
  rcases result with stop | ⟨value, rest⟩
  · unfold Json.endObject
    dsimp only
    split <;> exact yields_error _
  · exact yields_before (yields value rest rfl)

theorem readItems_bounded {value : Reader Json} (yields : ∀ cs, Yields Bounded (value cs))
    (cs : List Char) : Yields Bounded (readItems value cs) := by
  have keeps (items : List Json) (cs : List Char) (bounded : ∀ item ∈ items, item.Bounded) :
      Yields (fun items => ∀ item ∈ items, item.Bounded) (pushItem value items cs) :=
    (yields cs).map fun _ here => List.forall_mem_cons.2 ⟨here, bounded⟩
  have none : ∀ item ∈ ([] : List Json), item.Bounded := nofun
  have folded := foldItems_yields keeps (cs.length + 1) true none cs
  have array : ∀ items : List Json, (∀ item ∈ items, item.Bounded) →
      (Json.array items.reverse).Bounded := fun items bounded =>
    .array fun item member => bounded item (List.mem_reverse.1 member)
  exact (folded.map fun read => array read.1).endArray

theorem readMembers_bounded {value : Reader Json} (yields : ∀ cs, Yields Bounded (value cs))
    (cs : List Char) : Yields Bounded (readMembers value cs) := by
  have keeps (members : List (String × Json)) (name : String) (cs : List Char)
      (bounded : ∀ member ∈ members, member.2.Bounded) :
      Yields (fun members => ∀ member ∈ members, member.2.Bounded)
        (pushMember value members name cs) :=
    yields_behind fun rest => (yields rest).bind fun _ here =>
      yields_ok (List.forall_mem_cons.2 ⟨here, bounded⟩)
  have none : ∀ member ∈ ([] : List (String × Json)), member.2.Bounded := nofun
  have folded := foldMembers_yields keeps (cs.length + 1) true none cs
  have object : ∀ members : List (String × Json), (∀ member ∈ members, member.2.Bounded) →
      (Json.object members.reverse).Bounded := fun members bounded =>
    .object fun member there => bounded member (List.mem_reverse.1 there)
  exact (folded.map fun read => object read.1).endObject

theorem readWith_bounded {array object : Reader Json} (arrays : ∀ cs, Yields Bounded (array cs))
    (objects : ∀ cs, Yields Bounded (object cs)) (cs : List Char) :
    Yields Bounded (readWith array object cs) := by
  have anyText (cs : List Char) : Yields (fun _ => True) (readText cs) := fun _ _ _ => trivial
  unfold readWith
  split
  · exact yields_error _
  · -- One case for each character that a value can begin with.
    split
    · exact yields_before .null
    split
    · exact yields_before (.bool true)
    split
    · exact yields_before (.bool false)
    split
    · exact readNumber_bounded.map fun _ => .number
    split
    · exact readNumber_bounded.map fun _ => .number
    split
    · exact (anyText _).map fun read _ => .text read.1
    split
    · exact arrays _
    split
    · exact objects _
    · exact yields_error _

theorem readValue_bounded (depth : Nat) (cs : List Char) :
    Yields Bounded (readValue depth cs) := by
  induction depth generalizing cs with
  | zero => exact readWith_bounded (fun _ => yields_error _) (fun _ => yields_error _) cs
  | succ depth inductionHypothesis =>
    exact readWith_bounded (readItems_bounded inductionHypothesis)
      (readMembers_bounded inductionHypothesis) cs

/-- The canonical tree has no other numbers. -/
theorem Bounded.canonical {document : Json} (bounded : document.Bounded) :
    document.canonical.Bounded := by
  induction bounded with
  | null => exact .null
  | bool value => exact .bool value
  | number bounded => exact .number bounded
  | text value => exact .text value
  | array _ inductionHypothesis =>
    rw [Json.canonical, canonicalItems_eq_map]
    apply Bounded.array
    intro item member
    rcases List.mem_map.1 member with ⟨item, there, rfl⟩
    exact inductionHypothesis item there
  | object _ inductionHypothesis =>
    rw [Json.canonical, canonicalMembers_eq_map]
    apply Bounded.object
    intro member sorted
    rcases List.mem_map.1 (mem_of_mem_sortEntries sorted) with ⟨member, there, rfl⟩
    exact inductionHypothesis member there

/-- The integers of a document that was read fit 64 bits. -/
theorem parse_bounded {text : String} {document : Json} (parsed : parse text = .ok document) :
    document.Bounded := by
  unfold parse at parsed
  cases whole : readWhole (readValue maxDepth) text with
  | error error =>
    rw [whole] at parsed
    cases parsed
  | ok tree =>
    rw [whole] at parsed
    cases parsed
    exact ((readValue_bounded maxDepth text.toList).whole whole).canonical

end Json
end AsmNotebook
