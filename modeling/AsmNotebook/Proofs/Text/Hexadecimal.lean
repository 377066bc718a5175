import AsmNotebook.Json.Reader
import Mathlib.Data.Nat.Digits.Lemmas

namespace AsmNotebook
namespace Text

/-!
# Hexadecimal numerals

The number that digits stand for, read with the digits of the JSON reader.
Zeros in front do not count, and the digits that a number is written with
stand for it, so a numeral determines its number.

The other way round a number has many numerals, unless it is said which
letters they use and how far they are filled up with zeros.  `HexNumeral` says
this for capitals and a width that no zero may exceed, and then there is
exactly one.
-/

open Json (hexValue?)

/-- The number that hexadecimal digits stand for after those of another number. -/
def hexNumberFrom (start : Nat) (digits : List Char) : Nat :=
  digits.foldl (fun number digit => 16 * number + (hexValue? digit).getD 0) start

/-- The number that hexadecimal digits stand for. -/
def hexNumber (digits : List Char) : Nat :=
  hexNumberFrom 0 digits

theorem hexNumberFrom_append (start : Nat) (first second : List Char) :
    hexNumberFrom start (first ++ second) =
      hexNumberFrom (hexNumberFrom start first) second :=
  List.foldl_append

theorem hexNumberFrom_zeros (count : Nat) : hexNumberFrom 0 (List.replicate count '0') = 0 := by
  induction count with
  | zero => rfl
  | succ count inductionHypothesis => exact inductionHypothesis

theorem hexValue?_digitChar {digit : Nat} (small : digit < 16) :
    hexValue? (Nat.digitChar digit) = some digit := by
  have all : ∀ digit : Fin 16, hexValue? (Nat.digitChar digit) = some digit.val := by decide
  exact all ⟨digit, small⟩

theorem hexNumberFrom_digitChar (start : Nat) {digit : Nat} (small : digit < 16) :
    hexNumberFrom start [Nat.digitChar digit] = 16 * start + digit := by
  simp [hexNumberFrom, hexValue?_digitChar small]

/-- The digits that a number is written with stand for it. -/
theorem hexNumber_toDigits (number : Nat) : hexNumber (Nat.toDigits 16 number) = number := by
  induction number using Nat.base_induction 16 (by decide) with
  | single digit small =>
    rw [Nat.toDigits_of_lt_base small, hexNumber, hexNumberFrom_digitChar 0 small]
    omega
  | digit front digit small positive inductionHypothesis =>
    rw [← Nat.toDigits_append_toDigits (by decide) positive small, hexNumber,
      hexNumberFrom_append, Nat.toDigits_of_lt_base small, hexNumberFrom_digitChar _ small]
    exact congrArg (16 * · + digit) inductionHypothesis

/-- Zeros in front of a numeral do not change its number. -/
theorem hexNumber_padded (count number : Nat) :
    hexNumber (List.replicate count '0' ++ Nat.toDigits 16 number) = number := by
  rw [hexNumber, hexNumberFrom_append, hexNumberFrom_zeros]
  exact hexNumber_toDigits number

/-! ## Numerals with capitals -/

/-- A hexadecimal digit, a capital if it is a letter. -/
def UpperDigit (c : Char) : Prop :=
  c ∈ "0123456789ABCDEF".toList

/-- The number that a digit stands for. -/
def hexDigit (c : Char) : Nat :=
  (hexValue? c).getD 0

/-- Digits of a number, with zeros in front only up to a width. -/
structure HexNumeral (width number : Nat) (digits : List Char) : Prop where
  upper : ∀ c ∈ digits, UpperDigit c
  value : hexNumber digits = number
  wide : width ≤ digits.length
  tight : digits.head? = some '0' → digits.length = width

variable {width number : Nat} {digits digits' : List Char} {c : Char}

theorem UpperDigit.lt (upper : UpperDigit c) : hexDigit c < 16 := by
  have all : ("0123456789ABCDEF".toList.all fun c => hexDigit c < 16) = true := by decide
  exact of_decide_eq_true (List.all_eq_true.1 all c upper)

/-- A digit is known by its number. -/
theorem UpperDigit.digitChar (upper : UpperDigit c) :
    (Nat.digitChar (hexDigit c)).toUpper = c := by
  have all : ("0123456789ABCDEF".toList.all fun c => (Nat.digitChar (hexDigit c)).toUpper = c) =
      true := by decide
  exact of_decide_eq_true (List.all_eq_true.1 all c upper)

theorem upperDigit_digitChar {digit : Nat} (small : digit < 16) :
    UpperDigit (Nat.digitChar digit).toUpper ∧ hexDigit (Nat.digitChar digit).toUpper = digit := by
  have all : ∀ digit : Fin 16, (Nat.digitChar digit).toUpper ∈ "0123456789ABCDEF".toList ∧
      hexDigit (Nat.digitChar digit).toUpper = digit.val := by decide
  exact all ⟨digit, small⟩

/-- From the last one to the first, digits are those of their number to the base sixteen. -/
theorem hexNumber_eq_ofDigits (digits : List Char) :
    hexNumber digits = Nat.ofDigits 16 (digits.reverse.map hexDigit) := by
  induction digits using List.reverseRecOn with
  | nil => rfl
  | append_singleton digits digit inductionHypothesis =>
    rw [hexNumber, hexNumberFrom_append, List.reverse_concat, List.map_cons, Nat.ofDigits_cons,
      ← inductionHypothesis, Nat.add_comm]
    rfl

theorem lt_of_mem_hexDigit (upper : ∀ c ∈ digits, UpperDigit c) :
    ∀ digit ∈ digits.reverse.map hexDigit, digit < 16 := by
  intro digit member
  rcases List.mem_map.1 member with ⟨c, there, rfl⟩
  exact (upper c (List.mem_reverse.1 there)).lt

theorem hexNumber_lt (upper : ∀ c ∈ digits, UpperDigit c) :
    hexNumber digits < 16 ^ digits.length := by
  have bound := Nat.ofDigits_lt_base_pow_length (by decide) (lt_of_mem_hexDigit upper)
  rwa [← hexNumber_eq_ofDigits, List.length_map, List.length_reverse] at bound

/-- Digits without a zero in front stand for a number that needs as many. -/
theorem le_hexNumber (upper : ∀ c ∈ digits, UpperDigit c) (filled : digits ≠ [])
    (sharp : digits.head? ≠ some '0') : 16 ^ digits.length ≤ 16 * hexNumber digits := by
  rcases List.exists_cons_of_ne_nil filled with ⟨c, rest, rfl⟩
  have nonempty : (c :: rest).reverse.map hexDigit ≠ [] := by simp
  have positive : ((c :: rest).reverse.map hexDigit).getLast nonempty ≠ 0 := by
    have first : ((c :: rest).reverse.map hexDigit).getLast nonempty = hexDigit c := by simp
    rw [first]
    intro zero
    apply sharp
    rw [List.head?_cons, ← (upper c List.mem_cons_self).digitChar, zero]
    rfl
  have bound := Nat.pow_length_le_mul_ofDigits (b := 14) nonempty positive
  rwa [← hexNumber_eq_ofDigits, List.length_map, List.length_reverse] at bound

/-- Digits are known by their number and how many they are. -/
theorem eq_of_hexNumber_eq (upper : ∀ c ∈ digits, UpperDigit c)
    (upper' : ∀ c ∈ digits', UpperDigit c) (length : digits.length = digits'.length)
    (same : hexNumber digits = hexNumber digits') : digits = digits' := by
  have known : ∀ {digits : List Char}, (∀ c ∈ digits, UpperDigit c) →
      (digits.map hexDigit).map (fun digit => (Nat.digitChar digit).toUpper) = digits := by
    intro digits upper
    rw [List.map_map]
    exact (List.map_congr_left fun c member => (upper c member).digitChar).trans (List.map_id _)
  have values : digits.reverse.map hexDigit = digits'.reverse.map hexDigit := by
    apply Nat.ofDigits_inj_of_len_eq (b := 16) (by decide) _ (lt_of_mem_hexDigit upper)
      (lt_of_mem_hexDigit upper')
    · rw [← hexNumber_eq_ofDigits, ← hexNumber_eq_ofDigits, same]
    · simp [length]
  rw [List.map_reverse, List.map_reverse, List.reverse_inj] at values
  rw [← known upper, values, known upper']

namespace HexNumeral

theorem length_le (numeral : HexNumeral width number digits)
    (numeral' : HexNumeral width number digits') : digits'.length ≤ digits.length := by
  by_contra longer
  have wide := numeral.wide
  -- A numeral that is longer than another one exceeds the width, so it has no zero in front.
  have sharp : digits'.head? ≠ some '0' := fun zero => by
    have width := numeral'.tight zero
    omega
  have filled : digits' ≠ [] := by
    rintro rfl
    exact longer (Nat.zero_le _)
  have large := le_hexNumber numeral'.upper filled sharp
  have small := hexNumber_lt numeral.upper
  rw [numeral.value] at small
  rw [numeral'.value] at large
  have more : 16 ^ (digits.length + 1) ≤ 16 ^ digits'.length :=
    Nat.pow_le_pow_right (by decide) (by omega)
  rw [Nat.pow_succ] at more
  omega

/-- A number has one numeral of a width. -/
theorem unique (numeral : HexNumeral width number digits)
    (numeral' : HexNumeral width number digits') : digits = digits' := by
  have length : digits.length = digits'.length :=
    Nat.le_antisymm (numeral'.length_le numeral) (numeral.length_le numeral')
  exact eq_of_hexNumber_eq numeral.upper numeral'.upper length
    (numeral.value.trans numeral'.value.symm)

end HexNumeral

/-- The digits that a number is written with, in capitals, have no zero in front but for zero. -/
theorem hexNumeral_toDigits (number : Nat) :
    HexNumeral 1 number ((Nat.toDigits 16 number).map Char.toUpper) := by
  induction number using Nat.base_induction 16 (by decide) with
  | single digit small =>
    rcases upperDigit_digitChar small with ⟨upper, value⟩
    rw [Nat.toDigits_of_lt_base small]
    refine
      { upper := fun c member => List.mem_singleton.1 member ▸ upper
        value := ?_
        wide := Nat.le_refl 1
        tight := fun _ => rfl }
    exact (Nat.zero_add _).trans value
  | digit front digit small positive inductionHypothesis =>
    rcases upperDigit_digitChar small with ⟨upper, value⟩
    rw [← Nat.toDigits_append_toDigits (by decide) positive small, List.map_append,
      Nat.toDigits_of_lt_base small]
    generalize (Nat.toDigits 16 front).map Char.toUpper = digits at inductionHypothesis ⊢
    have sharp : digits.head? ≠ some '0' := by
      intro zero
      rcases List.length_eq_one_iff.1 (inductionHypothesis.tight zero) with ⟨c, rfl⟩
      cases zero
      exact positive.ne inductionHypothesis.value
    have filled : digits ≠ [] := List.ne_nil_of_length_pos inductionHypothesis.wide
    refine
      { upper := fun c member => ?_
        value := ?_
        wide := by simp
        tight := fun zero => ?_ }
    · rcases List.mem_append.1 member with member | member
      · exact inductionHypothesis.upper c member
      · exact List.mem_singleton.1 member ▸ upper
    · rw [hexNumber, hexNumberFrom_append]
      change 16 * hexNumber digits + hexDigit _ = _
      rw [inductionHypothesis.value, value]
    · rw [List.head?_append_of_ne_nil _ filled] at zero
      exact absurd zero sharp

/-- A numeral is filled up with zeros. -/
theorem hexNumeral_padded (positive : 0 < width) (number : Nat) :
    let digits := (Nat.toDigits 16 number).map Char.toUpper
    HexNumeral width number (List.replicate (width - digits.length) '0' ++ digits) := by
  have numeral := hexNumeral_toDigits number
  generalize (Nat.toDigits 16 number).map Char.toUpper = digits at numeral ⊢
  have length : (List.replicate (width - digits.length) '0' ++ digits).length =
      width - digits.length + digits.length := by simp
  refine
    { upper := fun c member => ?_
      value := ?_
      wide := by omega
      tight := fun zero => ?_ }
  · rcases List.mem_append.1 member with member | member
    · rw [List.eq_of_mem_replicate member]
      exact List.mem_cons_self
    · exact numeral.upper c member
  · rw [hexNumber, hexNumberFrom_append, hexNumberFrom_zeros]
    exact numeral.value
  · by_cases short : digits.length < width
    · omega
    · rw [Nat.sub_eq_zero_of_le (Nat.le_of_not_lt short)] at zero
      have single := numeral.tight zero
      omega

end Text
end AsmNotebook
