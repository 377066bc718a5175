import AsmNotebook.Prompt.Loop
import AsmNotebook.Proofs.Grammar

namespace AsmNotebook
namespace Prompt

/-!
# Commands with a number

A number that is written in decimal is read back as the same number, if it
fits 64 bits.  So a command word with a number behind it is the command for
the cell with this number; zero and numbers beyond 64 bits are refused.
-/

open AsmNotebook.Command (Splits)

/-- Digits are counted as their number. -/
theorem foldl_digits (digits : List Char) (start : Nat) :
    digits.foldl (fun n d => n * 10 + (d.toNat - 48)) start =
      Nat.ofDigitChars 10 digits start := by
  induction digits generalizing start with
  | nil => rfl
  | cons digit digits inductionHypothesis =>
    rw [List.foldl_cons, inductionHypothesis, Nat.ofDigitChars_cons, Nat.mul_comm]
    rfl

/-- A number that is written is read back, if it fits 64 bits. -/
theorem numeral?_toString (n : Nat) :
    numeral? (toString n) = if n < UInt64.size then some n else none := by
  have isDigit : ∀ d ∈ Nat.toDigits 10 n, d.isDigit = true :=
    fun d => Nat.isDigit_of_mem_toDigits (by decide) (by decide)
  have value := Nat.ofDigitChars_ten_toDigits (n := n)
  rcases List.exists_cons_of_ne_nil (Nat.toDigits_ne_nil (n := n) (b := 10)) with
    ⟨c, digits, written⟩
  rw [written] at isDigit value
  have text : (toString n).toList = c :: digits := by
    rw [Nat.toString_eq_repr, Nat.toList_repr, written]
  have unsigned : c ≠ '+' := by
    rintro rfl
    exact absurd (isDigit '+' List.mem_cons_self) (by decide)
  have decimal : (c :: digits).all Char.isDigit = true := List.all_eq_true.2 isDigit
  unfold numeral?
  rw [text]
  split
  · next _ same => exact absurd (List.cons.inj same).1 unsigned
  · simp only [decimal, foldl_digits, value, List.isEmpty_cons, Bool.not_true, Bool.or_self,
      Bool.false_eq_true, if_false]

/-- Numbers of cells are those that fit 64 bits, save zero. -/
theorem cellIndex_toString (number : Nat) :
    cellIndex (some (toString number)) =
      if 0 < number ∧ number < UInt64.size then .ok (number - 1)
      else .error ("invalid cell number: " ++ toString number) := by
  rw [cellIndex, numeral?_toString]
  cases number with
  | zero => rfl
  | succ n =>
    by_cases fits : n + 1 < UInt64.size
    · simp [fits]
    · simp [fits]

theorem isBlank_of_isDigit {c : Char} (digit : c.isDigit = true) : Text.isBlank c = false := by
  have bounds : 48 ≤ c.toNat ∧ c.toNat ≤ 57 := Char.isDigit_iff_toNat.1 digit
  simp only [Text.isBlank, Bool.or_eq_false_iff, Bool.and_eq_false_iff, decide_eq_false_iff_not,
    beq_eq_false_iff_ne]
  omega

/-- Digits have no white space around them. -/
theorem trimmed_of_digits {digits : List Char} (all : ∀ d ∈ digits, d.isDigit = true) :
    Text.Trimmed digits := by
  apply Text.trimmed_of_ends
  · apply Text.trimStartChars_eq_self_iff.2
    intro c first
    exact isBlank_of_isDigit (all c (List.mem_of_head? first))
  · apply Text.trimEndChars_eq_self_iff.2
    intro filled
    exact isBlank_of_isDigit (all _ (List.getLast_mem filled))

/-- The argument with the given letters.  Without letters there is none. -/
def argument? (letters : List Char) : Option String :=
  if letters.isEmpty then none else some (String.ofList letters)

theorem argument?_of_ne_nil {letters : List Char} (given : letters ≠ []) :
    argument? letters = some (String.ofList letters) := by
  rw [argument?, List.isEmpty_eq_false_iff.2 given, if_neg Bool.false_ne_true]

/-- The name and the argument of a text that splits. -/
theorem parts_of_splits {body name gap argument : List Char}
    (splits : Splits body name gap argument) :
    Command.parts body = (String.ofList name, argument? argument) := by
  simp only [Command.parts, splits.takeWhile_eq, splits.dropWhile_eq, splits.trimChars_eq]
  rfl

/-- A line with a command word and a number. -/
def numberedLine (word : String) (number : Nat) : String :=
  ":" ++ word ++ " " ++ toString number

section Line

variable {word : String} (sharp : ∀ c ∈ word.toList, Text.isBlank c = false) (number : Nat)

theorem toList_numberedLine (word : String) (number : Nat) :
    (numberedLine word number).toList =
      ':' :: (word.toList ++ [' '] ++ Nat.toDigits 10 number) := by
  simp [numberedLine]

theorem isCommandLine_numberedLine (word : String) (number : Nat) :
    isCommandLine (numberedLine word number) = true := by
  rw [isCommandLine, toList_numberedLine]
  rfl

include sharp in
/-- The word and the number of a line. -/
theorem splits_numberedLine :
    Splits (word.toList ++ [' '] ++ Nat.toDigits 10 number) word.toList [' ']
      (Nat.toDigits 10 number) where
  whole := rfl
  word := sharp
  blank := by simp [Text.AllBlank, Text.isBlank]
  apart := fun _ => List.cons_ne_nil ' ' []
  trimmed := trimmed_of_digits fun d =>
    Nat.isDigit_of_mem_toDigits (by decide) (by decide)
  bare := by
    refine iff_of_false Nat.toDigits_ne_nil fun word => ?_
    exact absurd (word ' ' (by simp)) (by decide)

/-- A line with a command word and a number is trimmed. -/
theorem trimmed_numberedLine (word : String) (number : Nat) :
    Text.Trimmed (numberedLine word number).toList := by
  rw [toList_numberedLine]
  apply Text.trimmed_of_ends
  · rfl
  · apply Text.trimEndChars_eq_self_iff.2
    intro filled
    have suffix : Nat.toDigits 10 number <:+
        ':' :: (word.toList ++ [' '] ++ Nat.toDigits 10 number) :=
      ⟨':' :: (word.toList ++ [' ']), rfl⟩
    rw [← suffix.getLast Nat.toDigits_ne_nil]
    exact isBlank_of_isDigit (Nat.isDigit_of_mem_toDigits (by decide) (by decide)
      (List.getLast_mem Nat.toDigits_ne_nil))

include sharp in
theorem parse_numberedLine :
    Command.parse (numberedLine word number) = Command.ofParts word (some (toString number)) := by
  have trimmed : Text.trimChars (numberedLine word number).toList = _ :=
    trimmed_numberedLine word number
  have digits : String.ofList (Nat.toDigits 10 number) = toString number := by
    rw [Nat.toString_eq_repr, Nat.repr_eq_ofList_toDigits]
  rw [Command.parse, trimmed, toList_numberedLine]
  change Command.ofParts (Command.parts _).1 (Command.parts _).2 = _
  rw [parts_of_splits (splits_numberedLine sharp number),
    argument?_of_ne_nil Nat.toDigits_ne_nil, digits, String.ofList_toList]

end Line

end Prompt
end AsmNotebook
