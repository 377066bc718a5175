import AsmNotebook.Proofs.Json.Scalars

namespace AsmNotebook
namespace Json

/-!
# Trees read back from their indented form

Arrays and objects are read by walks over their items and members.  What a
walk does with one part is left open: `ItemSteps` and `MemberSteps` ask only
that each step takes the text of one part and goes on behind it, and the walk
then takes the text of all of them.  The reader of trees is the first use of
both, and formats are the others.

The documents in question hold no numbers but those of at most 64 bits without
sign, and are nested no deeper than the reader goes.
-/

variable {depth level outer : Nat} {cs rest after : List Char}

/-- A document of texts, truth values and numbers without sign, with arrays and objects nested at
most so deep. -/
inductive Plain : Nat → Json → Prop
  | null {depth : Nat} : Plain depth .null
  | bool {depth : Nat} (value : Bool) : Plain depth (.bool value)
  | number {depth n : Nat} (fits : n ≤ maxUnsigned) : Plain depth (.number (.integer n))
  | text {depth : Nat} (value : String) : Plain depth (.text value)
  | array {depth : Nat} {items : List Json} (plain : ∀ item ∈ items, Plain depth item) :
      Plain (depth + 1) (.array items)
  | object {depth : Nat} {members : List (String × Json)}
      (plain : ∀ member ∈ members, Plain depth member.2) : Plain (depth + 1) (.object members)

theorem write_integer (n : Nat) : (Number.integer n).write.toList = Nat.toDigits 10 n := by
  change (toString (n : Int)).toList = _
  rw [Int.toString_eq_repr]
  exact Nat.toList_repr

/-- What follows the opening bracket of an array. -/
def arrayBody (level : Nat) : List Json → List Char
  | [] => [']']
  | item :: items =>
    indentation (level + 1) ++ (indentedChars (level + 1) item ++
      (indentedItems (level + 1) items ++ (indentation level ++ [']'])))

theorem indentedChars_array (level : Nat) (items : List Json) :
    indentedChars level (.array items) = '[' :: arrayBody level items := by
  cases items <;> simp [indentedChars, arrayBody]

/-- What follows the opening brace of an object. -/
def objectBody (level : Nat) : List (String × Json) → List Char
  | [] => ['\x7d']
  | (name, value) :: members =>
    indentation (level + 1) ++ (writeText name ++ (':' :: ' ' :: (indentedChars (level + 1) value ++
      (indentedMembers (level + 1) members ++ (indentation level ++ ['\x7d'])))))

theorem indentedChars_object (level : Nat) (members : List (String × Json)) :
    indentedChars level (.object members) = '\x7b' :: objectBody level members := by
  cases members <;> simp [indentedChars, objectBody]

/-- Whether characters begin like a value: not with a blank and not with a closing bracket. -/
def begins : List Char → Bool
  | [] => false
  | c :: _ => !(isSpace c || c == ']')

theorem begins_append (first : begins cs = true) : begins (cs ++ rest) = true := by
  cases cs with
  | nil => cases first
  | cons c cs => exact first

theorem skipSpace_of_begins (first : begins cs = true) : skipSpace cs = cs := by
  cases cs with
  | nil => rfl
  | cons c cs =>
    simp only [begins, Bool.not_eq_true', Bool.or_eq_false_iff] at first
    simp [skipSpace, first.1]

theorem skipSpace_indentation (depth : Nat) (cs : List Char) :
    skipSpace (indentation depth ++ cs) = skipSpace cs := by
  have blank : ∀ c ∈ indentation depth, isSpace c = true := by
    intro c member
    rcases List.mem_cons.1 member with rfl | space
    · rfl
    · rw [List.eq_of_mem_replicate space]
      rfl
  exact List.dropWhile_append_of_pos blank

theorem isDigit_ne {c other : Char} (digit : c.isDigit = true) (none : other.isDigit = false) :
    c ≠ other := by
  rintro rfl
  exact absurd (digit.symm.trans none) nofun

/-- The first digit of a number and the others. -/
theorem toDigits_cons (n : Nat) :
    ∃ c digits, Nat.toDigits 10 n = c :: digits ∧ c.isDigit = true := by
  cases written : Nat.toDigits 10 n with
  | nil => exact absurd written Nat.toDigits_ne_nil
  | cons c digits =>
    have first : c ∈ Nat.toDigits 10 n := by
      rw [written]
      exact List.mem_cons_self
    exact ⟨c, digits, rfl, Nat.isDigit_of_mem_toDigits (by decide) (by decide) first⟩

theorem Plain.begins {document : Json} (plain : Plain depth document) (level : Nat) :
    Json.begins (indentedChars level document) = true := by
  cases plain with
  | null => rfl
  | bool value => cases value <;> rfl
  | text value => rfl
  | array => rw [indentedChars_array]; rfl
  | object => rw [indentedChars_object]; rfl
  | @number _ n fits =>
    rcases toDigits_cons n with ⟨c, digits, written, digit⟩
    have space : isSpace c = false := by
      simp [isSpace, isDigit_ne digit]
    rw [indentedChars, write_integer, written]
    simp [Json.begins, space, isDigit_ne digit]

/-- Only null begins like null. -/
theorem Plain.begins_not_null {document : Json} (plain : Plain depth document)
    (present : document ≠ .null) (level : Nat) :
    ∃ c cs, indentedChars level document = c :: cs ∧ c ≠ 'n' := by
  cases plain with
  | null => exact absurd rfl present
  | bool value => cases value <;> exact ⟨_, _, rfl, by decide⟩
  | text value => exact ⟨_, _, rfl, by decide⟩
  | array => exact ⟨_, _, indentedChars_array level _, by decide⟩
  | object => exact ⟨_, _, indentedChars_object level _, by decide⟩
  | @number _ n fits =>
    rcases toDigits_cons n with ⟨c, digits, written, digit⟩
    rw [indentedChars, write_integer]
    exact ⟨c, digits, written, isDigit_ne digit rfl⟩

theorem length_le_indentedItems (level : Nat) (items : List Json) :
    items.length ≤ (indentedItems level items).length := by
  induction items with
  | nil => exact Nat.le_refl 0
  | cons item items inductionHypothesis =>
    simp [indentedItems]
    omega

theorem length_le_arrayBody (level : Nat) (items : List Json) :
    items.length ≤ (arrayBody level items).length := by
  cases items with
  | nil => exact Nat.zero_le 1
  | cons item items =>
    have rest := length_le_indentedItems (level + 1) items
    simp [arrayBody]
    omega

theorem length_le_indentedMembers (level : Nat) (members : List (String × Json)) :
    members.length ≤ (indentedMembers level members).length := by
  induction members with
  | nil => exact Nat.le_refl 0
  | cons member members inductionHypothesis =>
    simp [indentedMembers]
    omega

theorem length_le_objectBody (level : Nat) (members : List (String × Json)) :
    members.length ≤ (objectBody level members).length := by
  cases members with
  | nil => exact Nat.zero_le 1
  | cons member members =>
    have rest := length_le_indentedMembers (level + 1) members
    simp [objectBody]
    omega

/-! ## Walks -/

variable {σ α β : Type}

theorem nextItem_first (first : begins cs = true) :
    nextItem true (indentation level ++ cs) = .ok (some cs, cs) := by
  rw [nextItem, skipSpace_indentation, skipSpace_of_begins first]
  cases cs with
  | nil => cases first
  | cons c cs =>
    simp only [begins, Bool.not_eq_true', Bool.or_eq_false_iff, beq_eq_false_iff_ne] at first
    simp [first.2]

theorem nextItem_comma (first : begins cs = true) :
    nextItem false (',' :: (indentation level ++ cs)) = .ok (some cs, cs) := by
  have ahead : skipSpace (',' :: (indentation level ++ cs)) =
      ',' :: (indentation level ++ cs) := rfl
  simp only [nextItem, ahead, skipSpace_indentation, skipSpace_of_begins first]
  cases cs with
  | nil => cases first
  | cons c cs =>
    simp only [begins, Bool.not_eq_true', Bool.or_eq_false_iff, beq_eq_false_iff_ne] at first
    simp [first.2]

theorem nextItem_close (first : Bool) :
    nextItem first (indentation level ++ ']' :: after) = .ok (none, ']' :: after) := by
  rw [nextItem, skipSpace_indentation]
  rfl

/-- Steps that read the texts of items one after another. -/
inductive ItemSteps (step : σ → Reader σ) (depth level : Nat) : σ → List Json → σ → Prop
  | nil {state : σ} : ItemSteps step depth level state [] state
  | cons {state next last : σ} {item : Json} {items : List Json} (plain : item.Plain depth)
      (reads : ∀ rest, endsNumber rest = true →
        step state (item.indentedChars level ++ rest) = .ok (next, rest))
      (others : ItemSteps step depth level next items last) :
      ItemSteps step depth level state (item :: items) last

namespace ItemSteps

variable {step : σ → Reader σ} {state last : σ} {items : List Json} {fuel : Nat}

theorem fold (steps : ItemSteps step depth level state items last) (enough : items.length < fuel) :
    foldItems step fuel false state
        (indentedItems level items ++ (indentation outer ++ ']' :: after)) =
      .ok (last, ']' :: after) := by
  induction steps generalizing fuel with
  | nil =>
    cases fuel with
    | zero => cases enough
    | succ fuel => simp only [foldItems, indentedItems, List.nil_append, nextItem_close]
  | @cons state next last item items plain reads others inductionHypothesis =>
    cases fuel with
    | zero => cases enough
    | succ fuel =>
      have text : indentedItems level (item :: items) ++ (indentation outer ++ ']' :: after) =
          ',' :: (indentation level ++ (indentedChars level item ++
            (indentedItems level items ++ (indentation outer ++ ']' :: after)))) := by
        simp [indentedItems]
      have ends : endsNumber
          (indentedItems level items ++ (indentation outer ++ ']' :: after)) = true := by
        cases items <;> rfl
      rw [text, foldItems, nextItem_comma (begins_append (plain.begins level))]
      simp only [reads _ ends]
      exact inductionHypothesis (Nat.lt_of_succ_lt_succ enough)

/-- A walk over the items of an array ends before the closing bracket. -/
theorem foldArray (steps : ItemSteps step depth (level + 1) state items last) :
    foldItems step ((arrayBody level items ++ after).length + 1) true state
      (arrayBody level items ++ after) = .ok (last, ']' :: after) := by
  have enough : items.length ≤ (arrayBody level items ++ after).length := by
    have body := length_le_arrayBody level items
    rw [List.length_append]
    omega
  cases steps with
  | nil =>
    simp only [foldItems, arrayBody]
    rfl
  | @cons _ next _ item items plain reads others =>
    have ends : endsNumber
        (indentedItems (level + 1) items ++ (indentation level ++ ']' :: after)) = true := by
      cases items <;> rfl
    have text : arrayBody level (item :: items) ++ after =
        indentation (level + 1) ++ (indentedChars (level + 1) item ++
          (indentedItems (level + 1) items ++ (indentation level ++ ']' :: after))) := by
      simp [arrayBody]
    rw [foldItems, text, nextItem_first (begins_append (plain.begins (level + 1)))]
    simp only [reads _ ends]
    rw [text] at enough
    exact others.fold enough

end ItemSteps

theorem nextName_first (name : List Char) :
    nextName true (indentation level ++ '"' :: name) = .ok (some name, '"' :: name) := by
  rw [nextName, skipSpace_indentation]
  rfl

theorem nextName_comma (name : List Char) :
    nextName false (',' :: (indentation level ++ '"' :: name)) = .ok (some name, '"' :: name) := by
  have ahead : skipSpace (',' :: (indentation level ++ '"' :: name)) =
      ',' :: (indentation level ++ '"' :: name) := rfl
  have quote : skipSpace ('"' :: name) = '"' :: name := rfl
  simp only [nextName, ahead, skipSpace_indentation, quote]
  rfl

theorem nextName_close (first : Bool) :
    nextName first (indentation level ++ '\x7d' :: after) = .ok (none, '\x7d' :: after) := by
  rw [nextName, skipSpace_indentation]
  rfl

/-- Steps that read the texts of members one after another, each from right behind the name. -/
inductive MemberSteps (step : σ → String → Reader σ) (level : Nat) :
    σ → List (String × Json) → σ → Prop
  | nil {state : σ} : MemberSteps step level state [] state
  | cons {state next last : σ} {name : String} {value : Json} {members : List (String × Json)}
      (reads : ∀ rest, endsNumber rest = true →
        step state name (':' :: ' ' :: (value.indentedChars level ++ rest)) = .ok (next, rest))
      (others : MemberSteps step level next members last) :
      MemberSteps step level state ((name, value) :: members) last

namespace MemberSteps

variable {step : σ → String → Reader σ} {state last : σ} {members : List (String × Json)}
variable {fuel : Nat}

theorem fold (steps : MemberSteps step level state members last)
    (enough : members.length < fuel) :
    foldMembers step fuel false state
        (indentedMembers level members ++ (indentation outer ++ '\x7d' :: after)) =
      .ok (last, '\x7d' :: after) := by
  induction steps generalizing fuel with
  | nil =>
    cases fuel with
    | zero => cases enough
    | succ fuel => simp only [foldMembers, indentedMembers, List.nil_append, nextName_close]
  | @cons state next last name value members reads others inductionHypothesis =>
    cases fuel with
    | zero => cases enough
    | succ fuel =>
      have text : indentedMembers level ((name, value) :: members) ++
            (indentation outer ++ '\x7d' :: after) =
          ',' :: (indentation level ++ '"' :: (name.toList.flatMap escapeChar ++ '"' ::
            ':' :: ' ' :: (indentedChars level value ++
              (indentedMembers level members ++ (indentation outer ++ '\x7d' :: after))))) := by
        simp [indentedMembers, writeText]
      have ends : endsNumber
          (indentedMembers level members ++ (indentation outer ++ '\x7d' :: after)) = true := by
        cases members <;> rfl
      rw [text, foldMembers, nextName_comma]
      simp only [readText_escaped, reads _ ends]
      exact inductionHypothesis (Nat.lt_of_succ_lt_succ enough)

/-- A walk over the members of an object ends before the closing brace. -/
theorem foldObject (steps : MemberSteps step (level + 1) state members last) :
    foldMembers step ((objectBody level members ++ after).length + 1) true state
      (objectBody level members ++ after) = .ok (last, '\x7d' :: after) := by
  have enough : members.length ≤ (objectBody level members ++ after).length := by
    have body := length_le_objectBody level members
    rw [List.length_append]
    omega
  cases steps with
  | nil =>
    simp only [foldMembers, objectBody]
    rfl
  | @cons _ next _ name value members reads others =>
    have text : objectBody level ((name, value) :: members) ++ after =
        indentation (level + 1) ++ '"' :: (name.toList.flatMap escapeChar ++ '"' ::
          ':' :: ' ' :: (indentedChars (level + 1) value ++
            (indentedMembers (level + 1) members ++ (indentation level ++ '\x7d' :: after)))) := by
      simp [objectBody, writeText]
    have ends : endsNumber
        (indentedMembers (level + 1) members ++ (indentation level ++ '\x7d' :: after)) = true := by
      cases members <;> rfl
    rw [foldMembers, text, nextName_first]
    simp only [readText_escaped, reads _ ends]
    rw [text] at enough
    exact others.fold enough

end MemberSteps

/-! ## Trees -/

/-- A reader takes what is written for a document for a value, at every indentation and with
blanks in front of it. -/
def ReadsAs (read : Reader α) (document : Json) (value : α) : Prop :=
  ∀ (level : Nat) (cs rest : List Char), endsNumber rest = true →
    skipSpace cs = document.indentedChars level ++ rest → read cs = .ok (value, rest)

section

variable {read : Reader α} {document : Json} {value : α}

theorem ReadsAs.here (reads : ReadsAs read document value) (plain : document.Plain depth)
    (level : Nat) (ends : endsNumber rest = true) :
    read (document.indentedChars level ++ rest) = .ok (value, rest) :=
  reads level _ rest ends (skipSpace_of_begins (begins_append (plain.begins level)))

theorem ReadsAs.behindSpace (reads : ReadsAs read document value) (plain : document.Plain depth)
    (level : Nat) (ends : endsNumber rest = true) :
    read (' ' :: (document.indentedChars level ++ rest)) = .ok (value, rest) :=
  reads level _ rest ends (skipSpace_of_begins (begins_append (plain.begins level)))

variable {items : List β} {encode : β → Json} {kept : β → α}

theorem ItemSteps.push (level : Nat) (plain : ∀ item ∈ items, (encode item).Plain depth)
    (reads : ∀ item ∈ items, ReadsAs read (encode item) (kept item)) (carried : List α) :
    ItemSteps (pushItem read) depth level carried (items.map encode)
      ((items.map kept).reverse ++ carried) := by
  induction items generalizing carried with
  | nil => exact .nil
  | cons item items inductionHypothesis =>
    have others := inductionHypothesis (fun item later => plain item (List.mem_cons_of_mem _ later))
      (fun item later => reads item (List.mem_cons_of_mem _ later)) (kept item :: carried)
    rw [List.map_cons, List.map_cons, List.reverse_cons, List.append_assoc]
    refine .cons (plain item List.mem_cons_self) (fun rest ends => ?_) others
    rw [pushItem, (reads item List.mem_cons_self).here (plain item List.mem_cons_self) level ends]
    rfl

/-- An array is read item by item. -/
theorem foldItems_push (level : Nat) (rest : List Char)
    (plain : ∀ item ∈ items, (encode item).Plain depth)
    (reads : ∀ item ∈ items, ReadsAs read (encode item) (kept item)) :
    foldItems (pushItem read) ((arrayBody level (items.map encode) ++ rest).length + 1) true []
        (arrayBody level (items.map encode) ++ rest) =
      .ok ((items.map kept).reverse, ']' :: rest) := by
  have steps := ItemSteps.push (level + 1) plain reads []
  rw [List.append_nil] at steps
  exact steps.foldArray

end

theorem MemberSteps.push {read : Reader Json} {members : List (String × Json)} (level : Nat)
    (plain : ∀ member ∈ members, member.2.Plain depth)
    (reads : ∀ member ∈ members, ReadsAs read member.2 member.2) (carried : List (String × Json)) :
    MemberSteps (pushMember read) level carried members (members.reverse ++ carried) := by
  induction members generalizing carried with
  | nil => exact .nil
  | cons member members inductionHypothesis =>
    rcases member with ⟨name, value⟩
    have others := inductionHypothesis
      (fun member later => plain member (List.mem_cons_of_mem _ later))
      (fun member later => reads member (List.mem_cons_of_mem _ later)) ((name, value) :: carried)
    rw [List.reverse_cons, List.append_assoc]
    refine .cons (fun rest ends => ?_) others
    have first := (reads (name, value) List.mem_cons_self).behindSpace
      (plain (name, value) List.mem_cons_self) level ends
    change (read (' ' :: (indentedChars level value ++ rest)) >>= _) = _
    rw [first]
    rfl

theorem endArray_close (value : α) :
    endArray (.ok (value, ']' :: rest)) = .ok (value, rest) :=
  rfl

theorem endObject_close (value : α) :
    endObject (.ok (value, '\x7d' :: rest)) = .ok (value, rest) :=
  rfl

theorem readValue_eq (depth : Nat) :
    ∃ array object, Json.readValue depth = readWith array object := by
  cases depth with
  | zero => exact ⟨_, _, rfl⟩
  | succ depth => exact ⟨_, _, rfl⟩

section

variable (array object : Reader Json)

theorem readsAs_null : ReadsAs (readWith array object) .null .null := by
  intro level cs rest _ ahead
  rw [readWith, ahead]
  rfl

theorem readsAs_bool (value : Bool) :
    ReadsAs (readWith array object) (.bool value) (.bool value) := by
  intro level cs rest _ ahead
  rw [readWith, ahead]
  cases value <;> rfl

theorem readsAs_number {n : Nat} (fits : n ≤ maxUnsigned) :
    ReadsAs (readWith array object) (.number (.integer n)) (.number (.integer n)) := by
  intro level cs rest ends ahead
  rcases toDigits_cons n with ⟨c, digits, written, digit⟩
  have value := readNumber_toDigits fits ends
  rw [indentedChars, write_integer, written, List.cons_append] at ahead
  rw [written, List.cons_append] at value
  simp [readWith, ahead, isDigit_ne digit, digit, value, Except.map]

theorem readsAs_text (value : String) :
    ReadsAs (readWith array object) (.text value) (.text value) := by
  intro level cs rest _ ahead
  have text : readText (value.toList.flatMap escapeChar ++ '"' :: rest) = .ok (value, rest) :=
    readText_escaped value
  simp [readWith, ahead, indentedChars, writeText, text, Except.map]

end

/-- A document is read back from its indented form. -/
theorem Plain.readValue {document : Json} (plain : document.Plain depth) :
    ReadsAs (Json.readValue depth) document document := by
  induction plain with
  | @null depth =>
    rcases readValue_eq depth with ⟨array, object, same⟩
    rw [same]
    exact readsAs_null array object
  | @bool depth value =>
    rcases readValue_eq depth with ⟨array, object, same⟩
    rw [same]
    exact readsAs_bool array object value
  | @number depth n fits =>
    rcases readValue_eq depth with ⟨array, object, same⟩
    rw [same]
    exact readsAs_number array object fits
  | @text depth value =>
    rcases readValue_eq depth with ⟨array, object, same⟩
    rw [same]
    exact readsAs_text array object value
  | @array depth items plain inductionHypothesis =>
    intro level cs rest _ ahead
    have read : foldItems (pushItem (Json.readValue depth))
        ((arrayBody level (items.map id) ++ rest).length + 1) true []
        (arrayBody level (items.map id) ++ rest) = .ok ((items.map id).reverse, ']' :: rest) :=
      foldItems_push level rest plain inductionHypothesis
    rw [List.map_id] at read
    rw [Json.readValue, readWith, ahead, indentedChars_array]
    change readItems (Json.readValue depth) (arrayBody level items ++ rest) = _
    rw [readItems, read]
    simp only [Except.map, List.reverse_reverse, endArray_close]
  | @object depth members plain inductionHypothesis =>
    intro level cs rest _ ahead
    have steps := MemberSteps.push (level + 1) plain inductionHypothesis []
    rw [Json.readValue, readWith, ahead, indentedChars_object]
    change readMembers (Json.readValue depth) (objectBody level members ++ rest) = _
    rw [readMembers, steps.foldObject]
    simp only [Except.map, List.append_nil, List.reverse_reverse, endObject_close]

/-- A text that holds a document and white space behind it is read to the end. -/
theorem readWhole_indented_append {read : Reader α} {document : Json} {value : α} {tail : String}
    (plain : document.Plain depth) (reads : ReadsAs read document value)
    (ends : endsNumber tail.toList = true) (blank : skipSpace tail.toList = []) :
    readWhole read (document.indented ++ tail) = .ok value := by
  have text : (document.indented ++ tail).toList = document.indentedChars 0 ++ tail.toList := by
    simp [indented]
  rw [readWhole, text, reads.here plain 0 ends]
  dsimp only
  rw [blank]

/-- A text that holds a document and ends its line is read to the end. -/
theorem readWhole_indented {read : Reader α} {document : Json} {value : α}
    (plain : document.Plain depth) (reads : ReadsAs read document value) :
    readWhole read (document.indented ++ "\n") = .ok value :=
  readWhole_indented_append plain reads rfl rfl

/-- A document that was written is parsed into its canonical tree. -/
theorem parse_indented {document : Json} (plain : document.Plain maxDepth) :
    parse (document.indented ++ "\n") = .ok document.canonical := by
  rw [parse, readWhole_indented plain plain.readValue]
  rfl

end Json
end AsmNotebook
