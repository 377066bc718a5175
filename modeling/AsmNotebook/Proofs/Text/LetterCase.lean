import AsmNotebook.Text.LetterCase
import Mathlib.Data.List.Forall2

namespace AsmNotebook
namespace Text

/-!
# Words in any letter case

Small forms are taken from a table of all scripts, and that of a sigma depends
on the letters around it.  For a word of small Latin letters little of this
matters.  The letters themselves, their capitals, and for `k` the sign for
kelvin have such a letter as their small form, and no other character has.
-/

/-- A small Latin letter. -/
def Small (c : Char) : Prop :=
  'a' ≤ c ∧ c ≤ 'z'

instance (c : Char) : Decidable (Small c) :=
  inferInstanceAs (Decidable ('a' ≤ c ∧ c ≤ 'z'))

theorem small_of_all {cs : List Char} (all : (cs.all fun c => Small c) = true) :
    ∀ c ∈ cs, Small c :=
  fun c member => of_decide_eq_true (List.all_eq_true.1 all c member)

/-- The sign for kelvin, which looks like a capital. -/
def kelvin : Char :=
  Char.ofNat 0x212A

/-- A character is a small letter or one of its capitals. -/
def CaseOf (c small : Char) : Prop :=
  c = small ∨ c = small.toUpper ∨ c = kelvin ∧ small = 'k'

/-- A word has the letters of another one, in any letter case. -/
def InAnyCase (word letters : List Char) : Prop :=
  List.Forall₂ CaseOf word letters

variable {c small : Char} {before rest letters : List Char}

theorem Small.bounds (letter : Small small) : 97 ≤ small.toNat ∧ small.toNat ≤ 122 :=
  letter

/-- A small letter is the small form of itself and of its capital, which is an ASCII letter. -/
theorem Small.toLower (letter : Small small) :
    small.toLower = small ∧ small.toUpper.toLower = small ∧ small.toUpper.toNat < 0x80 := by
  have table : ∀ n : Fin 26, let small := Char.ofNat (97 + n)
      small.toLower = small ∧ small.toUpper.toLower = small ∧ small.toUpper.toNat < 0x80 := by
    decide
  have bounds := letter.bounds
  have entry := table ⟨small.toNat - 97, by omega⟩
  have number : 97 + (small.toNat - 97) = small.toNat := by omega
  simpa only [number, Char.ofNat_toNat] using entry

/-- An ASCII character is its small form or the capital of that. -/
theorem eq_toLower_or_toUpper (ascii : c.toNat < 0x80) : c = c.toLower ∨ c = c.toLower.toUpper := by
  have table : ∀ n : Fin 128, Char.ofNat n = (Char.ofNat n).toLower ∨
      Char.ofNat n = (Char.ofNat n).toLower.toUpper := by decide
  have entry := table ⟨c.toNat, ascii⟩
  rwa [Char.ofNat_toNat] at entry

theorem toLower_eq_iff (ascii : c.toNat < 0x80) (letter : Small small) :
    c.toLower = small ↔ CaseOf c small := by
  constructor
  · rintro rfl
    rcases eq_toLower_or_toUpper ascii with same | capital
    · exact Or.inl same
    · exact Or.inr (Or.inl capital)
  · rintro (rfl | rfl | ⟨rfl, _⟩)
    · exact letter.toLower.1
    · exact letter.toLower.2.1
    · exact absurd ascii (by decide)

/-- Runs of the table lead to small Latin letters only from their capitals and from the sign for
kelvin. -/
theorem lowerRuns_elsewhere : ∀ run ∈ lowerRuns.toList,
    run.last < 0x80 ∨ 122 < run.first + run.shift ∨
      run.first = 0x212A ∧ run.last = 0x212A ∧ run.shift = -8383 := by
  decide +kernel

theorem toNat_of_ofNat_eq {n : Nat} (letter : Small small) (same : Char.ofNat n = small) :
    n = small.toNat := by
  have bounds := letter.bounds
  by_cases valid : n.isValidChar
  · rw [Char.ofNat, dif_pos valid] at same
    rw [← same]
    rfl
  · rw [Char.ofNat, dif_neg valid] at same
    rw [← same] at bounds
    exact absurd bounds.1 (by decide)

/-- A character stays as it is or is moved by a run that covers it. -/
theorem shiftBy_cases (runs : Array Run) (c : Char) :
    shiftBy runs c = c ∨ ∃ run ∈ runs.toList, run.first ≤ c.toNat ∧ c.toNat ≤ run.last ∧
      shiftBy runs c = Char.ofNat (c.toNat + run.shift).toNat := by
  unfold shiftBy
  split
  · next run found =>
    have covered : run.covers c.toNat = true :=
      Array.find?_some (p := fun run : Run => run.covers c.toNat) found
    simp only [Run.covers, Bool.and_eq_true, decide_eq_true_eq] at covered
    have listed := Array.mem_toList_iff.2 (Array.mem_of_find?_eq_some found)
    exact Or.inr ⟨run, listed, covered.1.1, covered.1.2, rfl⟩
  · exact Or.inl rfl

theorem eq_kelvin_of_shiftBy (other : 0x80 ≤ c.toNat) (letter : Small (shiftBy lowerRuns c)) :
    c = kelvin ∧ shiftBy lowerRuns c = 'k' := by
  have bounds := letter.bounds
  rcases shiftBy_cases lowerRuns c with same | ⟨run, listed, first, last, moved⟩
  · rw [same] at bounds
    omega
  · have code := toNat_of_ofNat_eq letter moved.symm
    rcases lowerRuns_elsewhere run listed with below | above | ⟨first', last', shift⟩
    · omega
    · omega
    · have sign : c.toNat = kelvin.toNat := by
        change c.toNat = 0x212A
        omega
      have small : (shiftBy lowerRuns c).toNat = 'k'.toNat := by
        change (shiftBy lowerRuns c).toNat = 107
        omega
      exact ⟨Char.toNat_inj.1 sign, Char.toNat_inj.1 small⟩

theorem shiftBy_kelvin : shiftBy lowerRuns kelvin = 'k' := by
  decide +kernel

/-- A small letter in some case beyond the ASCII letters is the sign for kelvin. -/
theorem CaseOf.eq_kelvin (case : CaseOf c small) (other : 0x80 ≤ c.toNat) (letter : Small small) :
    c = kelvin ∧ small = 'k' := by
  have bounds := letter.bounds
  rcases case with rfl | rfl | sign
  · omega
  · have ascii := letter.toLower.2.2
    omega
  · exact sign

/-- A character has a small Latin letter as its small form exactly if it is that letter in some case. -/
theorem lowerChar_eq_iff (letter : Small small) : lowerChar c = [small] ↔ CaseOf c small := by
  unfold lowerChar
  split
  · next ascii => rw [List.cons_eq_cons, and_iff_left rfl, toLower_eq_iff ascii letter]
  · next other =>
    have other : 0x80 ≤ c.toNat := Nat.le_of_not_lt other
    split
    · next dotted =>
      refine iff_of_false nofun fun case => ?_
      rw [(case.eq_kelvin other letter).1] at dotted
      exact absurd dotted (by decide)
    · rw [List.cons_eq_cons, and_iff_left rfl]
      constructor
      · rintro rfl
        exact Or.inr (Or.inr (eq_kelvin_of_shiftBy other letter))
      · intro case
        rcases case.eq_kelvin other letter with ⟨rfl, rfl⟩
        exact shiftBy_kelvin

theorem exists_lowerChar_eq (plain : c.toNat ≠ 0x130) : ∃ d, lowerChar c = [d] := by
  unfold lowerChar
  split
  · exact ⟨_, rfl⟩
  · rw [beq_eq_false_iff_ne.2 plain]
    exact ⟨_, rfl⟩

theorem lowerFrom_cons_eq_iff (small_letters : ∀ d ∈ small :: letters, Small d) :
    lowerFrom before (c :: rest) = small :: letters ↔
      CaseOf c small ∧ lowerFrom (c :: before) rest = letters := by
  rcases List.forall_mem_cons.1 small_letters with ⟨letter, others⟩
  have foreign (code : c.toNat = 0x3A3 ∨ c.toNat = 0x130) : ¬ CaseOf c small := by
    intro case
    have sign := congrArg Char.toNat (case.eq_kelvin (by omega) letter).1
    change c.toNat = 0x212A at sign
    omega
  rw [lowerFrom]
  by_cases sigma : c.toNat = 0x3A3
  · rw [if_pos (beq_iff_eq.2 sigma)]
    refine iff_of_false ?_ fun right => foreign (Or.inl sigma) right.1
    have greek : ¬ Small (Char.ofNat 0x3C2) ∧ ¬ Small (Char.ofNat 0x3C3) := by
      unfold Small
      decide
    split
    · rintro ⟨⟩
      exact greek.1 letter
    · rintro ⟨⟩
      exact greek.2 letter
  rw [if_neg (mt beq_iff_eq.1 sigma)]
  by_cases dotted : c.toNat = 0x130
  · -- The small form has a dot as a letter of its own, which is not Latin.
    refine iff_of_false ?_ fun right => foreign (Or.inr dotted) right.1
    have dot : ¬ Small (Char.ofNat 0x307) := by
      unfold Small
      decide
    have written : lowerChar c = ['i', Char.ofNat 0x307] := by
      simp [lowerChar, dotted]
    rw [written]
    rintro ⟨⟩
    exact dot (others _ List.mem_cons_self)
  · rcases exists_lowerChar_eq dotted with ⟨d, written⟩
    rw [← lowerChar_eq_iff letter, written, List.singleton_append, List.cons_eq_cons,
      List.cons_eq_cons, and_iff_left (a := d = small) rfl]

theorem lowerFrom_eq_iff (small : ∀ d ∈ letters, Small d) (before word : List Char) :
    lowerFrom before word = letters ↔ InAnyCase word letters := by
  unfold InAnyCase
  induction word generalizing before letters with
  | nil =>
    rw [List.forall₂_nil_left_iff]
    exact eq_comm
  | cons c rest inductionHypothesis =>
    cases letters with
    | nil =>
      refine iff_of_false ?_ nofun
      unfold lowerFrom lowerChar
      dsimp only
      split_ifs <;> exact nofun
    | cons small' letters =>
      rw [lowerFrom_cons_eq_iff small, List.forall₂_cons,
        inductionHypothesis (List.forall_mem_cons.1 small).2]

/-- Words that have small Latin letters as their small form are those of these letters in any case. -/
theorem lower_eq_iff {word name : String} (small : ∀ c ∈ name.toList, Small c) :
    lower word = name ↔ InAnyCase word.toList name.toList := by
  rw [← lowerFrom_eq_iff small [], lower, ← String.toList_inj, String.toList_ofList]

end Text
end AsmNotebook
