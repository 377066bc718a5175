import AsmNotebook.Simulator.Answer

namespace AsmNotebook

/-- Every layout of a decimal has some character. -/
theorem Decimal.Layout.write_ne_empty (layout : Decimal.Layout) (decimal : Decimal.Digits) :
    layout.write decimal ≠ "" := by
  intro empty
  have silent := congrArg String.toList empty
  unfold Decimal.Layout.write at silent
  dsimp only at silent
  rw [String.toList_ofList] at silent
  split at silent
  · simp at silent
  · split at silent
    · simp at silent
    · split at silent
      · simp at silent
      · split at silent <;> simp at silent

theorem Number.write_ne_empty (number : Number) : number.write ≠ "" := by
  cases number with
  | integer value =>
    cases value with
    | ofNat n => exact Nat.repr_ne_empty
    | negSucc n => exact fun empty => Nat.repr_ne_empty (String.append_eq_empty_iff.1 empty).2
  | real value =>
    intro empty
    change Decimal.Binary64.write value = "" at empty
    unfold Decimal.Binary64.write at empty
    dsimp only at empty
    split at empty
    · exact absurd (String.append_eq_empty_iff.1 empty).2 (by decide)
    · exact Decimal.Layout.write_ne_empty _ _ (String.append_eq_empty_iff.1 empty).2

namespace Simulator

/-!
# Rows of a listing

A row that is an object is meant to follow the labels of its table: a field for
each of them, which shows what the row has under the label or under the label
in lower case.  It does so exactly if there is something to show.  A row that
has nothing under its labels, or only nulls and empty texts, shows all that it
has in the order of its own names, in whatever columns these come to stand.
-/

variable {labels : List String} {members : List (String × Json)}

/-- What a row has under a label, or else under the label in lower case. -/
def labelled? (members : List (String × Json)) (label : String) : Option Json :=
  (Json.member? label members).or (Json.member? (Text.lower label) members)

/-- The field in the column of a label. -/
def column (members : List (String × Json)) (label : String) : String :=
  ((labelled? members label).map cellText).getD ""

/-- A value with nothing to show. -/
def Blank (value : Json) : Prop :=
  value = .null ∨ value = .text ""

/-- A row has something to show under one of the labels. -/
def Shows (labels : List String) (members : List (String × Json)) : Prop :=
  ∃ label ∈ labels, ∃ value, labelled? members label = some value ∧ ¬ Blank value

theorem cellText_eq_empty_iff (value : Json) : cellText value = "" ↔ Blank value := by
  have brackets (first last : Char) (inner : List Char) :
      String.ofList (first :: inner ++ [last]) ≠ "" := by simp
  constructor
  · intro empty
    cases value with
    | null => exact Or.inl rfl
    | text value => exact Or.inr (congrArg Json.text empty)
    | bool value => exact absurd empty (by cases value <;> decide)
    | number value => cases value.write_ne_empty empty
    | array items => cases brackets _ _ _ empty
    | object members => cases brackets _ _ _ empty
  · rintro (rfl | rfl) <;> rfl

theorem column_ne_empty_iff (members : List (String × Json)) (label : String) :
    column members label ≠ "" ↔ ∃ value, labelled? members label = some value ∧ ¬ Blank value := by
  unfold column
  cases labelled? members label with
  | none => simp
  | some value => simp [cellText_eq_empty_iff]

theorem columns_blank_iff (labels : List String) (members : List (String × Json)) :
    (labels.map (column members)).all String.isEmpty = true ↔ ¬ Shows labels members := by
  simp [Shows, ← column_ne_empty_iff]

theorem rowCells_object (labels : List String) (members : List (String × Json)) :
    rowCells labels (.object members) =
      if (labels.map (column members)).all String.isEmpty then
        members.map fun member => cellText member.2
      else labels.map (column members) := by
  refine congrArg (fun field : String → String =>
    if (labels.map field).all String.isEmpty then members.map fun member => cellText member.2
    else labels.map field) (?_ : _ = column members)
  funext label
  unfold column labelled?
  cases (Json.member? label members).or (Json.member? (Text.lower label) members) <;> rfl

theorem rowCells_of_shows (visible : Shows labels members) :
    rowCells labels (.object members) = labels.map (column members) := by
  rw [rowCells_object, if_neg fun blank => (columns_blank_iff _ _).1 blank visible]

theorem rowCells_of_not_shows (blank : ¬ Shows labels members) :
    rowCells labels (.object members) = members.map fun member => cellText member.2 := by
  rw [rowCells_object, if_pos ((columns_blank_iff _ _).2 blank)]

/-- What becomes of a row that is an object. -/
structure RowOf (labels : List String) (members : List (String × Json)) (cells : List String) :
    Prop where
  /-- If there is something to show under the labels, each of them has its field, -/
  columns : Shows labels members → cells = labels.map (column members)
  /-- and nothing else in the row has a say. -/
  unlabelled : Shows labels members → ∀ others,
    (∀ label ∈ labels, labelled? others label = labelled? members label) →
      rowCells labels (.object others) = cells
  /-- Otherwise everything is shown. -/
  values : ¬ Shows labels members → cells = members.map fun member => cellText member.2
  /-- So the labels are followed by rows with something to show under them, and else only by rows of the
  same length without anything to show. -/
  follows : cells = labels.map (column members) ↔
    Shows labels members ∨ members.length = labels.length ∧ ∀ member ∈ members, Blank member.2

theorem Shows.congr {others : List (String × Json)} (visible : Shows labels members)
    (same : ∀ label ∈ labels, labelled? others label = labelled? members label) :
    Shows labels others := by
  rcases visible with ⟨label, listed, value, found, visible⟩
  exact ⟨label, listed, value, (same label listed).trans found, visible⟩

theorem columns_eq_replicate (blank : ¬ Shows labels members) :
    labels.map (column members) = List.replicate labels.length "" := by
  rw [List.map_eq_replicate_iff]
  intro label listed
  apply Decidable.byContradiction
  intro visible
  exact blank ⟨label, listed, (column_ne_empty_iff members label).1 visible⟩

theorem values_eq_replicate_iff (n : Nat) (members : List (String × Json)) :
    (members.map fun member => cellText member.2) = List.replicate n "" ↔
      members.length = n ∧ ∀ member ∈ members, Blank member.2 := by
  rw [List.eq_replicate_iff, List.length_map, List.forall_mem_map]
  simp only [cellText_eq_empty_iff]

theorem rowCells_rowOf (labels : List String) (members : List (String × Json)) :
    RowOf labels members (rowCells labels (.object members)) where
  columns := rowCells_of_shows
  unlabelled := by
    intro visible others same
    rw [rowCells_of_shows (visible.congr same), rowCells_of_shows visible]
    apply List.map_congr_left
    intro label listed
    unfold column
    rw [same label listed]
  values := rowCells_of_not_shows
  follows := by
    by_cases visible : Shows labels members
    · exact iff_of_true (rowCells_of_shows visible) (Or.inl visible)
    · rw [rowCells_of_not_shows visible, columns_eq_replicate visible, values_eq_replicate_iff]
      exact (or_iff_right visible).symm

/-- A listing has a row for each row of the program, and one that is an object follows the labels if
there is something to show under them. -/
theorem listing_rows (document : Json) (labels rows : List Json)
    (succeeded : document.textAt? "status" = some "success")
    (head : document.get? "label" = some (.array labels))
    (body : document.get? "data" = some (.array rows)) :
    ∃ cells, ofAssemble document = .listing (labels.map cellText) cells ∧
      cells.length = rows.length ∧
        ∀ (i : Nat) members, rows[i]? = some (.object members) →
          ∃ row, cells[i]? = some row ∧ RowOf (labels.map cellText) members row := by
  refine ⟨rows.map (rowCells (labels.map cellText)), ?_, List.length_map _, ?_⟩
  · have listing : listing? document =
        some (.listing (labels.map cellText) (rows.map (rowCells (labels.map cellText)))) := by
      unfold listing?
      rw [head, body]
      rfl
    unfold ofAssemble
    simp only [succeeded, listing, Option.getD_some]
  · intro i members row
    refine ⟨rowCells (labels.map cellText) (.object members), ?_, rowCells_rowOf _ _⟩
    rw [List.getElem?_map, row]
    rfl

/-- An address under its name in lower case, a null and a comment without a label. -/
theorem listing_rows_of_address :
    ∃ cells, ofAssemble (.object [
        ("data", .array [.object [("Comment", .text "start"), ("Opcode", .null),
          ("address", .number (.integer 2000))]]),
        ("label", .array [.text "Address", .text "Opcode"]),
        ("status", .text "success")]) = .listing ["Address", "Opcode"] cells ∧
      cells[0]? = some ["2000", ""] := by
  have read := listing_rows (.object [
      ("data", .array [.object [("Comment", .text "start"), ("Opcode", .null),
        ("address", .number (.integer 2000))]]),
      ("label", .array [.text "Address", .text "Opcode"]),
      ("status", .text "success")]) [.text "Address", .text "Opcode"] _ rfl rfl rfl
  rcases read with ⟨cells, listing, -, follows⟩
  rcases follows 0 _ rfl with ⟨row, there, shown⟩
  have visible : Shows ["Address", "Opcode"] [("Comment", .text "start"), ("Opcode", .null),
      ("address", .number (.integer 2000))] :=
    ⟨"Address", List.mem_cons_self, .number (.integer 2000), by rfl, nofun⟩
  exact ⟨cells, listing, there.trans (congrArg some (shown.columns visible))⟩

/-- A row with an empty text under a label need not follow the labels: what is shown in the column of
the second one is a comment. -/
theorem comment_shown_as_opcode :
    (labelled? [("Address", .text ""), ("Comment", .text "start")] "Address").isSome = true ∧
      ofAssemble (.object [
          ("data", .array [.object [("Address", .text ""), ("Comment", .text "start")]]),
          ("label", .array [.text "Address", .text "Opcode"]),
          ("status", .text "success")]) = .listing ["Address", "Opcode"] [["", "start"]] ∧
        ["Address", "Opcode"].map (column [("Address", .text ""), ("Comment", .text "start")]) =
          ["", ""] := by
  exact ⟨rfl, rfl, rfl⟩

end Simulator
end AsmNotebook
