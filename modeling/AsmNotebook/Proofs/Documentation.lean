import AsmNotebook.Documentation
import AsmNotebook.Proofs.Text.Trim
import Mathlib.Data.List.Forall2

namespace AsmNotebook

/-!
# Where the lines of a documentation go

The lines of a documentation are filed one after another, in the part that is
open when they come.  `Open` says without this order which part that is: the
part of the last header among the lines before, or the first part if there is
none.  `Adds` says what a line is filed as, if it is filed at all.

So whether the line at a position is filed, where, and as what depends on that
line and on the lines before it.  The entries of a part come from increasing
positions, one from each position that has an entry for it.  That no line is
lost and none filed twice is said apart, since it concerns all parts at once.

It follows from the same description that a documentation can be cut in front
of a header: nothing before the cut matters to the lines behind it.
-/

namespace Text

theorem linesFrom_append {cs : List Char} (ends : cs.getLast? = some '\n') (carried ds : List Char) :
    linesFrom carried (cs ++ ds) = linesFrom carried cs ++ linesFrom [] ds := by
  induction cs generalizing carried with
  | nil => cases ends
  | cons c rest inductionHypothesis =>
    cases rest with
    | nil =>
      cases ends
      rfl
    | cons next rest =>
      rw [List.getLast?_cons_cons] at ends
      by_cases feed : c = '\n'
      · subst feed
        exact congrArg _ (inductionHypothesis ends [])
      · rw [List.cons_append, linesFrom.eq_3 _ _ _ feed, linesFrom.eq_3 _ _ _ feed]
        exact inductionHypothesis ends (c :: carried)

/-- A text that can be followed by another one without joining a line of it. -/
def Closed (text : String) : Prop :=
  text = "" ∨ text.toList.getLast? = some '\n'

theorem lines_append {front : String} (closed : Closed front) (back : String) :
    lines (front ++ back) = lines front ++ lines back := by
  unfold lines lineChars
  rw [String.toList_append, ← List.map_append]
  rcases closed with rfl | ends
  · rfl
  · rw [linesFrom_append ends]

theorem opensWith_iff {opening text : String} :
    opensWith opening text = true ↔ ∃ rest, text.toList = opening.toList ++ rest := by
  rw [opensWith, List.isPrefixOf_iff_prefix]
  exact exists_congr fun _ => eq_comm

theorem afterPrefix?_eq_some_iff {opening text rest : String} :
    afterPrefix? opening text = some rest ↔ text.toList = opening.toList ++ rest.toList := by
  unfold afterPrefix?
  rw [Option.ite_none_right_eq_some, List.isPrefixOf_iff_prefix, Option.some.injEq,
    ← String.toList_inj, String.toList_ofList, ← String.length_toList]
  constructor
  · rintro ⟨opens, behind⟩
    rw [← behind, List.prefix_iff_eq_append.1 opens]
  · intro whole
    rw [whole]
    exact ⟨List.prefix_append .., List.drop_left⟩

end Text

namespace Documentation

/-! ## Headers -/

/-- A line that opens with the word of a part in its first column. -/
inductive Heads (line : String) : Part → Prop
  | args {rest : List Char} (opens : line.toList = "Args:".toList ++ rest) : Heads line .args
  | raises {rest : List Char} (opens : line.toList = "Raises:".toList ++ rest) : Heads line .raises
  | notes {rest : List Char} (opens : line.toList = "Notes:".toList ++ rest) : Heads line .notes
  | examples {rest : List Char} (opens : line.toList = "Example:".toList ++ rest) :
      Heads line .examples

/-- A line that is not a header. -/
def Plain (line : String) : Prop :=
  ∀ part, ¬ Heads line part

variable {line : String} {lines : List String} {first part opened : Part} {entry : String}

/-- The words begin with different letters, so that the order in which they are tried is nothing
that a line could show. -/
theorem header?_eq_some_iff : header? line = some part ↔ Heads line part := by
  constructor
  · intro found
    unfold header? at found
    split_ifs at found with args raises notes examples
    · cases found
      exact (Text.opensWith_iff.1 args).elim fun _ opens => .args opens
    · cases found
      exact (Text.opensWith_iff.1 raises).elim fun _ opens => .raises opens
    · cases found
      exact (Text.opensWith_iff.1 notes).elim fun _ opens => .notes opens
    · cases found
      exact (Text.opensWith_iff.1 examples).elim fun _ opens => .examples opens
  · rintro (opens | opens | opens | opens) <;> simp [header?, Text.opensWith, opens]

theorem header?_eq_none_iff : header? line = none ↔ Plain line := by
  simp only [Option.eq_none_iff_forall_ne_some, ne_eq, header?_eq_some_iff, Plain]

/-- No header opens the description. -/
theorem Heads.ne_description (heads : Heads line part) : part ≠ .description := by
  cases heads <;> decide

/-! ## The part that is open -/

/-- The part that lines leave open which begin in `first`: that of the last header. -/
inductive Open (first : Part) : List String → Part → Prop
  | unmoved {lines : List String} (plain : ∀ line ∈ lines, Plain line) : Open first lines first
  | moved {front between : List String} {header : String} {part : Part} (heads : Heads header part)
      (plain : ∀ line ∈ between, Plain line) : Open first (front ++ header :: between) part

theorem Open.first_or_heads (here : Open first lines part) :
    part = first ∨ ∃ header, Heads header part := by
  cases here with
  | unmoved => exact Or.inl rfl
  | @moved _ _ header _ heads => exact Or.inr ⟨header, heads⟩

theorem open_nil_iff : Open first [] part ↔ part = first := by
  constructor
  · intro opened
    generalize none : ([] : List String) = lines at opened
    cases opened with
    | unmoved => rfl
    | moved => exact absurd none (by simp)
  · rintro rfl
    exact .unmoved nofun

/-- If one of the lines behind the first is a header, it does not matter what was open before. -/
theorem Open.cons_cases (here : Open first (line :: lines) part) :
    (∀ other, Open other lines part) ∨
      (∀ other ∈ lines, Plain other) ∧ (Plain line ∧ part = first ∨ Heads line part) := by
  generalize whole : line :: lines = all at here
  cases here with
  | unmoved plain =>
    subst whole
    rcases List.forall_mem_cons.1 plain with ⟨head, others⟩
    exact Or.inr ⟨others, Or.inl ⟨head, rfl⟩⟩
  | @moved front between header _ heads plain =>
    cases front with
    | nil =>
      cases whole
      exact Or.inr ⟨plain, Or.inr heads⟩
    | cons =>
      cases whole
      exact Or.inl fun _ => .moved heads plain

/-- The part that is open behind a line. -/
def behind (line : String) (first : Part) : Part :=
  (header? line).getD first

theorem behind_of_heads (heads : Heads line opened) (first : Part) : behind line first = opened := by
  rw [behind, header?_eq_some_iff.2 heads, Option.getD_some]

theorem behind_of_plain (plain : Plain line) (first : Part) : behind line first = first := by
  rw [behind, header?_eq_none_iff.2 plain, Option.getD_none]

theorem open_cons_iff : Open first (line :: lines) part ↔ Open (behind line first) lines part := by
  constructor
  · intro here
    rcases here.cons_cases with any | ⟨plain, ⟨head, rfl⟩ | heads⟩
    · exact any _
    · rw [behind_of_plain head]
      exact .unmoved plain
    · rw [behind_of_heads heads]
      exact .unmoved plain
  · rintro (plain | ⟨heads, plain⟩)
    · by_cases headed : ∃ opened, Heads line opened
      · rcases headed with ⟨opened, heads⟩
        rw [behind_of_heads heads]
        exact @Open.moved first [] _ _ _ heads plain
      · have head : Plain line := not_exists.1 headed
        rw [behind_of_plain head]
        exact .unmoved (List.forall_mem_cons.2 ⟨head, plain⟩)
    · exact @Open.moved first (line :: _) _ _ _ heads plain

theorem existsUnique_open (first : Part) (lines : List String) : ∃! part, Open first lines part := by
  induction lines generalizing first with
  | nil => simp only [open_nil_iff, existsUnique_eq]
  | cons line lines inductionHypothesis =>
    simp only [open_cons_iff]
    exact inductionHypothesis (behind line first)

/-! ## What a line adds -/

/-- What a line adds to the part that is open. -/
inductive Adds (line : String) : Part → String → Prop
  | description {core : List Char} (filled : ¬ Text.AllBlank line.toList)
      (trims : Text.TrimsTo line.toList core) : Adds line .description (String.ofList core)
  | args (filled : ¬ Text.AllBlank line.toList) : Adds line .args line
  | raises {item core : List Char} (dash : Text.TrimsTo line.toList ('-' :: item))
      (trims : Text.TrimsTo item core) : Adds line .raises (String.ofList core)
  | notes {core : List Char} (filled : ¬ Text.AllBlank line.toList)
      (trims : Text.TrimsTo line.toList core) : Adds line .notes (String.ofList core)
  | examples (filled : ¬ Text.AllBlank line.toList) : Adds line .examples line

/-- A line whose core is a dash and more is not blank. -/
theorem filled_of_dash {item : List Char} (dash : Text.TrimsTo line.toList ('-' :: item)) :
    ¬ Text.AllBlank line.toList := by
  intro blank
  have gone := String.isEmpty_iff.1 (Text.isEmpty_trim_iff.2 blank)
  rw [Text.trim, Text.trimsTo_iff.1 dash] at gone
  exact absurd gone (by simp)

theorem entry?_of_blank (blank : Text.AllBlank line.toList) (part : Part) :
    entry? part line = none := by
  unfold entry?
  dsimp only
  rw [if_pos (Text.isEmpty_trim_iff.2 blank)]

theorem entry?_of_filled (filled : ¬ Text.AllBlank line.toList) (part : Part) :
    entry? part line =
      match part with
      | .args | .examples => some line
      | .description | .notes => some (Text.trim line)
      | .raises => (Text.afterPrefix? "-" (Text.trim line)).map Text.trim := by
  have present : ¬ (Text.trim line).isEmpty = true :=
    fun gone => filled (Text.isEmpty_trim_iff.1 gone)
  unfold entry?
  cases part <;> exact if_neg present

theorem Adds.filled (adds : Adds line part entry) : ¬ Text.AllBlank line.toList := by
  cases adds with
  | raises dash => exact filled_of_dash dash
  | _ => assumption

theorem item_iff :
    (Text.afterPrefix? "-" (Text.trim line)).map Text.trim = some entry ↔
      Adds line .raises entry := by
  rw [Option.map_eq_some_iff]
  constructor
  · rintro ⟨item, found, rfl⟩
    have whole := Text.afterPrefix?_eq_some_iff.1 found
    rw [Text.trim, String.toList_ofList] at whole
    exact .raises (Text.trimsTo_iff.2 whole) (Text.trimsTo_iff.2 rfl)
  · intro adds
    cases adds with
    | @raises item core dash trims =>
      refine ⟨String.ofList item, Text.afterPrefix?_eq_some_iff.2 ?_, ?_⟩
      · rw [Text.trim, Text.trimsTo_iff.1 dash]
        simp
      · rw [Text.trim, String.toList_ofList, Text.trimsTo_iff.1 trims]

theorem entry?_eq_some_iff : entry? part line = some entry ↔ Adds line part entry := by
  by_cases blank : Text.AllBlank line.toList
  · rw [entry?_of_blank blank]
    exact iff_of_false nofun fun adds => adds.filled blank
  · rw [entry?_of_filled blank]
    have trims : Text.TrimsTo line.toList (Text.trimChars line.toList) := Text.trimsTo_iff.2 rfl
    cases part with
    | raises => exact item_iff
    | args | examples =>
      dsimp only
      rw [Option.some.injEq]
      constructor
      · rintro rfl
        constructor
        exact blank
      · intro adds
        cases adds
        rfl
    | description | notes =>
      dsimp only
      rw [Option.some.injEq]
      constructor
      · rintro rfl
        constructor
        · exact blank
        · exact trims
      · intro adds
        cases adds
        next trims' => exact congrArg String.ofList (Text.trimsTo_iff.1 trims')

theorem Adds.unique {entry' : String} (adds : Adds line part entry)
    (adds' : Adds line part entry') : entry = entry' := by
  have found := entry?_eq_some_iff.2 adds
  rw [entry?_eq_some_iff.2 adds'] at found
  exact (Option.some.inj found).symm

/-- Only among the conditions of faults there are lines that add nothing though they are not
blank. -/
theorem adds_or_undashed (filled : ¬ Text.AllBlank line.toList) (part : Part) :
    (∃ entry, Adds line part entry) ∨
      part = .raises ∧ ∀ item, ¬ Text.TrimsTo line.toList ('-' :: item) := by
  have trims : Text.TrimsTo line.toList (Text.trimChars line.toList) := Text.trimsTo_iff.2 rfl
  cases part with
  | description => exact Or.inl ⟨_, .description filled trims⟩
  | args => exact Or.inl ⟨line, .args filled⟩
  | notes => exact Or.inl ⟨_, .notes filled trims⟩
  | examples => exact Or.inl ⟨line, .examples filled⟩
  | raises =>
    by_cases dashed : ∃ item, Text.TrimsTo line.toList ('-' :: item)
    · rcases dashed with ⟨item, dash⟩
      exact Or.inl ⟨_, .raises dash (Text.trimsTo_iff.2 rfl)⟩
    · exact Or.inr ⟨rfl, not_exists.1 dashed⟩

/-! ## Lines in their parts -/

/-- The line at a position is filed in a part, as an entry. -/
def Contributes (first : Part) (lines : List String) (part : Part) (position : Nat)
    (entry : String) : Prop :=
  ∃ line, lines[position]? = some line ∧ Plain line ∧ Open first (lines.take position) part ∧
    Adds line part entry

/-- The entries of a part, each from a line of its own, in the order of the lines. -/
def Gathers (first : Part) (lines : List String) (part : Part) (entries : List String) : Prop :=
  ∃ positions : List Nat, positions.Pairwise (· < ·) ∧
    List.Forall₂ (Contributes first lines part) positions entries ∧
    ∀ position entry, Contributes first lines part position entry → position ∈ positions

/-- What becomes of a line that is neither blank nor a header. -/
inductive Settled (first : Part) (lines : List String) (position : Nat) (line : String) : Prop
  | filed (once : ∃! filed : Part × String, Contributes first lines filed.1 position filed.2)
  | left (raises : Open first (lines.take position) .raises)
      (undashed : ∀ item, ¬ Text.TrimsTo line.toList ('-' :: item))
      (unfiled : ∀ part entry, ¬ Contributes first lines part position entry)

theorem contributes_zero_iff :
    Contributes first (line :: lines) part 0 entry ↔
      Plain line ∧ part = first ∧ Adds line part entry := by
  unfold Contributes
  rw [List.take_zero, open_nil_iff, List.getElem?_cons_zero]
  constructor
  · rintro ⟨_, ⟨⟩, here⟩
    exact here
  · exact fun here => ⟨line, rfl, here⟩

/-- The first line is filed in the same way whatever follows it. -/
theorem Contributes.beside (contributes : Contributes first (line :: lines) part 0 entry)
    (others : List String) : Contributes first (line :: others) part 0 entry :=
  contributes_zero_iff.2 (contributes_zero_iff.1 contributes)

theorem contributes_succ_iff {position : Nat} :
    Contributes first (line :: lines) part (position + 1) entry ↔
      Contributes (behind line first) lines part position entry := by
  unfold Contributes
  simp only [List.getElem?_cons_succ, List.take_succ_cons, open_cons_iff]

/-- Lines that come one later, so that another line finds room before them. -/
theorem Gathers.shift {entries : List String}
    (gathers : Gathers (behind line first) lines part entries) :
    ∃ positions : List Nat, positions.Pairwise (· < ·) ∧ (∀ position ∈ positions, 0 < position) ∧
      List.Forall₂ (Contributes first (line :: lines) part) positions entries ∧
      ∀ position entry, Contributes first (line :: lines) part (position + 1) entry →
        position + 1 ∈ positions := by
  rcases gathers with ⟨positions, sorted, each, all⟩
  refine ⟨positions.map (· + 1), ?_, ?_, ?_, ?_⟩
  · exact List.pairwise_map.2 (sorted.imp Nat.succ_lt_succ)
  · exact List.forall_mem_map.2 fun position _ => Nat.succ_pos position
  · rw [List.forall₂_map_left_iff]
    exact each.imp fun _ _ => contributes_succ_iff.2
  · intro position entry contributes
    exact List.mem_map_of_mem (all position entry (contributes_succ_iff.1 contributes))

theorem Gathers.skip {entries : List String}
    (gathers : Gathers (behind line first) lines part entries)
    (unfiled : ∀ entry, ¬ Contributes first (line :: lines) part 0 entry) :
    Gathers first (line :: lines) part entries := by
  rcases gathers.shift with ⟨positions, sorted, -, each, all⟩
  refine ⟨positions, sorted, each, fun position entry contributes => ?_⟩
  cases position with
  | zero => exact absurd contributes (unfiled entry)
  | succ position => exact all position entry contributes

theorem Gathers.cons {entries : List String}
    (gathers : Gathers (behind line first) lines part entries)
    (contributes : Contributes first (line :: lines) part 0 entry) :
    Gathers first (line :: lines) part (entry :: entries) := by
  rcases gathers.shift with ⟨positions, sorted, later, each, all⟩
  refine ⟨0 :: positions, List.pairwise_cons.2 ⟨later, sorted⟩, .cons contributes each, ?_⟩
  intro position other contributes'
  cases position with
  | zero => exact List.mem_cons_self
  | succ position => exact List.mem_cons_of_mem 0 (all position other contributes')

/-- What is filed in a part. -/
def Filed.of (part : Part) (filed : Filed) : List String :=
  match part with
  | .description => filed.description
  | .args => filed.args
  | .raises => filed.raises
  | .notes => filed.notes
  | .examples => filed.examples

theorem Filed.of_empty (part : Part) : Filed.empty.of part = [] := by
  cases part <;> rfl

theorem Filed.of_put_self (part : Part) (entry : String) (filed : Filed) :
    (filed.put part entry).of part = entry :: filed.of part := by
  cases part <;> rfl

theorem Filed.of_put_of_ne (other : part ≠ opened) (entry : String) (filed : Filed) :
    (filed.put opened entry).of part = filed.of part := by
  cases opened <;> cases part <;> first | rfl | exact absurd rfl other

theorem file_cons_of_heads (heads : Heads line opened) (first : Part) (lines : List String) :
    file first (line :: lines) = file opened lines := by
  rw [file, header?_eq_some_iff.2 heads]

theorem of_file_of_contributes (contributes : Contributes first (line :: lines) part 0 entry) :
    (file first (line :: lines)).of part = entry :: (file (behind line first) lines).of part := by
  rcases contributes_zero_iff.1 contributes with ⟨plain, rfl, adds⟩
  rw [file, behind_of_plain plain, header?_eq_none_iff.2 plain]
  dsimp only
  rw [entry?_eq_some_iff.2 adds]
  exact Filed.of_put_self ..

theorem of_file_of_unfiled (unfiled : ∀ entry, ¬ Contributes first (line :: lines) part 0 entry) :
    (file first (line :: lines)).of part = (file (behind line first) lines).of part := by
  rw [file, behind]
  cases header : header? line with
  | some opened => rfl
  | none =>
    dsimp only
    cases found : entry? first line with
    | none => rfl
    | some entry =>
      have other : part ≠ first := by
        rintro rfl
        have adds := entry?_eq_some_iff.1 found
        exact unfiled entry
          (contributes_zero_iff.2 ⟨header?_eq_none_iff.1 header, rfl, adds⟩)
      exact Filed.of_put_of_ne other ..

/-- Lines are filed by what each of them and the lines before it say. -/
theorem file_gathers (first : Part) (lines : List String) (part : Part) :
    Gathers first lines part ((file first lines).of part) := by
  induction lines generalizing first with
  | nil =>
    refine ⟨[], .nil, ?_, ?_⟩
    · rw [file, Filed.of_empty]
      exact .nil
    · rintro position entry ⟨line, found, _⟩
      cases found
  | cons line lines inductionHypothesis =>
    have gathers := inductionHypothesis (behind line first)
    by_cases filed : ∃ entry, Contributes first (line :: lines) part 0 entry
    · rcases filed with ⟨entry, contributes⟩
      rw [of_file_of_contributes contributes]
      exact gathers.cons contributes
    · have unfiled := not_exists.1 filed
      rw [of_file_of_unfiled unfiled]
      exact gathers.skip unfiled

/-- Behind a header, lines are no longer part of the description. -/
theorem Gathers.eq_nil {entries : List String} (gathers : Gathers first lines .description entries)
    (moved : first ≠ .description) : entries = [] := by
  rcases gathers with ⟨positions, -, each, -⟩
  cases each with
  | nil => rfl
  | cons contributes =>
    rcases contributes with ⟨line, -, -, here, -⟩
    rcases here.first_or_heads with same | ⟨header, heads⟩
    · exact absurd same.symm moved
    · exact absurd rfl heads.ne_description

/-- A line is filed once, unless it stands among the conditions of faults without a dash. -/
theorem settled {position : Nat} (found : lines[position]? = some line) (plain : Plain line)
    (filled : ¬ Text.AllBlank line.toList) : Settled first lines position line := by
  rcases existsUnique_open first (lines.take position) with ⟨part, here, only⟩
  have there {other : Part} {entry : String}
      (contributes : Contributes first lines other position entry) :
      other = part ∧ Adds line part entry := by
    rcases contributes with ⟨line', found', -, opened, adds⟩
    rw [found] at found'
    cases found'
    cases only other opened
    exact ⟨rfl, adds⟩
  rcases adds_or_undashed filled part with ⟨entry, adds⟩ | ⟨rfl, undashed⟩
  · refine .filed ⟨(part, entry), ⟨line, found, plain, here, adds⟩, ?_⟩
    rintro ⟨other, entry'⟩ contributes
    rcases there contributes with ⟨same, adds'⟩
    exact Prod.ext same (adds'.unique adds)
  · refine .left here undashed fun other entry contributes => ?_
    cases (there contributes).2 with
    | raises dash => exact undashed _ dash

/-- Everything that is filed of lines in front of a header stands before everything else. -/
theorem of_file_append {header : String} (heads : Heads header opened) (first : Part)
    (front back : List String) (part : Part) :
    (file first (front ++ header :: back)).of part =
      (file first front).of part ++ (file opened back).of part := by
  induction front generalizing first with
  | nil =>
    rw [List.nil_append, file_cons_of_heads heads, file, Filed.of_empty, List.nil_append]
  | cons line front inductionHypothesis =>
    by_cases filed : ∃ entry, Contributes first (line :: front) part 0 entry
    · rcases filed with ⟨entry, contributes⟩
      rw [of_file_of_contributes contributes, List.cons_append, List.cons_append,
        ← inductionHypothesis]
      exact of_file_of_contributes (contributes.beside _)
    · have unfiled := not_exists.1 filed
      rw [of_file_of_unfiled unfiled, List.cons_append, ← inductionHypothesis]
      refine of_file_of_unfiled fun entry contributes => ?_
      exact unfiled entry (contributes.beside front)

/-- A documentation with every line of a text in its place. -/
structure Holds (text : String) (documentation : Documentation) : Prop where
  /-- The description is one paragraph. -/
  description : ∃ paragraph, Gathers .description (Text.lines text) .description paragraph ∧
    documentation.description = " ".intercalate paragraph
  args : Gathers .description (Text.lines text) .args documentation.args
  raises : Gathers .description (Text.lines text) .raises documentation.raises
  notes : Gathers .description (Text.lines text) .notes documentation.notes
  examples : Gathers .description (Text.lines text) .examples documentation.examples
  /-- No line is lost that should not be, and none is filed twice. -/
  settled : ∀ position line, (Text.lines text)[position]? = some line → Plain line →
    ¬ Text.AllBlank line.toList → Settled .description (Text.lines text) position line

theorem holds_parse (text : String) : Holds text (parse text) := by
  have gathers := file_gathers .description (Text.lines text)
  constructor
  case description => exact ⟨_, gathers .description, rfl⟩
  case args => exact gathers .args
  case raises => exact gathers .raises
  case notes => exact gathers .notes
  case examples => exact gathers .examples
  case settled => exact fun _ _ => settled

/-- A text may be cut in front of a header, and its parts put together from those of the pieces;
every line that is neither blank nor a header is filed in the part of the last header before it. -/
theorem parse_compositional :
    (∀ front back header rest part, Text.Closed front → Text.lines back = header :: rest →
      Heads header part →
        parse (front ++ back) =
          { description := (parse front).description
            args := (parse front).args ++ (parse back).args
            raises := (parse front).raises ++ (parse back).raises
            notes := (parse front).notes ++ (parse back).notes
            examples := (parse front).examples ++ (parse back).examples }) ∧
    ∀ text, Holds text (parse text) := by
  refine ⟨fun front back header rest part closed first heads => ?_, holds_parse⟩
  have cut := of_file_append heads .description (Text.lines front) rest
  have description : (file part rest).of .description = [] :=
    (file_gathers part rest .description).eq_nil heads.ne_description
  have paragraph := cut .description
  rw [description, List.append_nil] at paragraph
  unfold parse ofFiled
  rw [Text.lines_append closed, first, file_cons_of_heads heads .description rest, mk.injEq]
  exact ⟨congrArg _ paragraph, cut .args, cut .raises, cut .notes, cut .examples⟩

/-- Behind the cut, neither the carriage return of the header nor the part that was open before it
matters, and an indented header is a line like others. -/
theorem parse_compositional_notes :
    Text.Closed "Intro\n  Args: none\n" ∧ Text.lines "Notes:\r\n y" = ["Notes:", " y"] ∧
      Heads "Notes:" .notes ∧
        parse ("Intro\n  Args: none\n" ++ "Notes:\r\n y") =
          { description := "Intro Args: none", args := [], raises := [], notes := ["y"],
            examples := [] } := by
  have closed : Text.Closed "Intro\n  Args: none\n" := Or.inr rfl
  have first : Text.lines "Notes:\r\n y" = ["Notes:", " y"] := by decide
  have heads : Heads "Notes:" .notes := header?_eq_some_iff.1 (by decide)
  refine ⟨closed, first, heads, ?_⟩
  rw [parse_compositional.1 _ _ _ _ _ closed first heads]
  decide

end Documentation
end AsmNotebook
