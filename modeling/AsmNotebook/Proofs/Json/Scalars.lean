import AsmNotebook.Json.Printer
import AsmNotebook.Json.Reader

namespace AsmNotebook
namespace Json

/-!
# Texts and numbers read back

A text is written between quotes with some of its characters escaped, and the
reader undoes one escape after the other.  A number without sign is written
with its decimal digits and no others, so it is read back if what follows
cannot be taken for a part of it.
-/

variable {carried more rest : List Char}

/-- Control characters are written with the last two of four hexadecimal digits. -/
theorem hexUnit?_byteDigits {n : Nat} (control : n < 0x20) :
    hexUnit? '0' '0' (Nat.digitChar (n / 16)) (Nat.digitChar (n % 16)) = some n := by
  have all : ∀ n : Fin 0x20,
      hexUnit? '0' '0' (Nat.digitChar (n / 16)) (Nat.digitChar (n % 16)) = some n.val := by decide
  exact all ⟨n, control⟩

theorem escapeAt_byteDigits {n : Nat} (control : n < 0x20) :
    escapeAt ('u' :: '0' :: '0' :: (byteDigits n ++ more)) = .ok (Char.ofNat n, 5) := by
  have low : isTrailing n = false ∧ isLeading n = false := by
    simp only [isTrailing, isLeading, Bool.and_eq_false_iff, decide_eq_false_iff_not]
    omega
  have unit : unitAt ('0' :: '0' :: (byteDigits n ++ more)) = .ok n := by
    simp only [unitAt, byteDigits, List.cons_append, hexUnit?_byteDigits control]
  simp [escapeAt, unit, low]

/-- The reader takes what is written for a character for that character. -/
theorem readTextFrom_escapeChar (c : Char) :
    readTextFrom 0 carried (escapeChar c ++ more) = readTextFrom 0 (c :: carried) more := by
  by_cases quote : c = '"'
  · subst quote; rfl
  by_cases backslash : c = '\\'
  · subst backslash; rfl
  by_cases newline : c = '\n'
  · subst newline; rfl
  by_cases carriageReturn : c = '\r'
  · subst carriageReturn; rfl
  by_cases tab : c = '\t'
  · subst tab; rfl
  by_cases backspace : c = '\x08'
  · subst backspace; rfl
  by_cases formFeed : c = '\x0c'
  · subst formFeed; rfl
  by_cases control : c.toNat < 0x20
  · have escaped : escapeAt ('u' :: '0' :: '0' :: (byteDigits c.toNat ++ more)) = .ok (c, 5) := by
      rw [escapeAt_byteDigits control, Char.ofNat_toNat]
    have written : escapeChar c ++ more =
        '\\' :: 'u' :: '0' :: '0' :: (byteDigits c.toNat ++ more) := by
      simp [escapeChar, quote, backslash, newline, carriageReturn, tab, backspace, formFeed,
        control]
    rw [written]
    simp only [readTextFrom, escaped]
    rfl
  · have written : escapeChar c ++ more = c :: more := by
      simp [escapeChar, quote, backslash, newline, carriageReturn, tab, backspace, formFeed,
        control]
    rw [written]
    simp only [readTextFrom, quote, backslash, control, if_false]

/-- A text is read back from between its quotes. -/
theorem readText_escaped (text : String) :
    readText (text.toList.flatMap escapeChar ++ '"' :: rest) = .ok (text, rest) := by
  have read : ∀ (cs carried : List Char),
      readTextFrom 0 carried (cs.flatMap escapeChar ++ '"' :: rest) =
        .ok (String.ofList (carried.reverse ++ cs), rest) := by
    intro cs
    induction cs with
    | nil => intro carried; simp [readTextFrom]
    | cons c cs inductionHypothesis =>
      intro carried
      rw [List.flatMap_cons, List.append_assoc, readTextFrom_escapeChar, inductionHypothesis]
      simp
  rw [readText, read, List.reverse_nil, List.nil_append, String.ofList_toList]

/-- Whether a number cannot go on into characters. -/
def endsNumber : List Char → Bool
  | [] => true
  | c :: _ => !(c.isDigit || c == '.' || c == 'e' || c == 'E')

theorem le_ofDigitChars (digits : List Char) (start : Nat) :
    start ≤ Nat.ofDigitChars 10 digits start := by
  induction digits generalizing start with
  | nil => exact Nat.le_refl _
  | cons digit digits inductionHypothesis =>
    rw [Nat.ofDigitChars_cons]
    exact Nat.le_trans (by omega) (inductionHypothesis _)

/-- Digits are gathered to their end while their number fits 64 bits. -/
theorem gather_of_le {digits : List Char} {start : Nat}
    (fits : Nat.ofDigitChars 10 digits start ≤ maxUnsigned) :
    gather start digits = (Nat.ofDigitChars 10 digits start, digits.length, 0) := by
  induction digits generalizing start with
  | nil => rfl
  | cons digit digits inductionHypothesis =>
    have value : digit.toNat - '0'.toNat = digit.toNat - 48 := rfl
    rw [Nat.ofDigitChars_cons, Nat.mul_comm, value] at fits ⊢
    have next : start * 10 + (digit.toNat - 48) ≤ maxUnsigned :=
      Nat.le_trans (le_ofDigitChars digits _) fits
    simp only [gather, if_pos next, inductionHypothesis fits, List.length_cons]

/-- The digits of a number: a zero alone, or some that do not begin with a zero. -/
theorem toDigits_cases (n : Nat) :
    n = 0 ∨ ∃ c digits, Nat.toDigits 10 n = c :: digits ∧ c ≠ '0' := by
  induction n using Nat.base_induction 10 (by decide) with
  | single digit small =>
    rw [Nat.toDigits_of_lt_base small]
    rcases Nat.eq_zero_or_pos digit with zero | positive
    · exact Or.inl zero
    · exact Or.inr ⟨_, [], rfl, fun zero => by simp at zero; omega⟩
  | digit front digit small positive inductionHypothesis =>
    rcases inductionHypothesis with zero | ⟨c, digits, written, nonzero⟩
    · omega
    · rw [← Nat.toDigits_append_toDigits (by decide) positive small, written]
      exact Or.inr ⟨c, _, rfl, nonzero⟩

/-- The reader takes the digits of a number up to where it ends. -/
theorem digits_split {digits : List Char} (all : ∀ c ∈ digits, c.isDigit = true)
    (ends : endsNumber rest = true) :
    (digits ++ rest).takeWhile Char.isDigit = digits ∧
      (digits ++ rest).dropWhile Char.isDigit = rest := by
  have stops : rest.takeWhile Char.isDigit = [] ∧ rest.dropWhile Char.isDigit = rest := by
    cases rest with
    | nil => exact ⟨rfl, rfl⟩
    | cons c rest =>
      simp only [endsNumber, Bool.not_eq_true', Bool.or_eq_false_iff] at ends
      simp [ends]
  rw [List.takeWhile_append_of_pos all, List.dropWhile_append_of_pos all, stops.1, stops.2,
    List.append_nil]
  exact ⟨rfl, rfl⟩

/-- A number is whole if it ends behind the digits that were gathered. -/
theorem readNumber_of_gather {c : Char} {tail digits : List Char} {n : Nat}
    (digit : c.isDigit = true)
    (taken : (if c = '0' then [] else tail.takeWhile Char.isDigit) = digits)
    (left : (if c = '0' then tail else tail.dropWhile Char.isDigit) = rest)
    (gathered : gather (c.toNat - 48) digits = (n, digits.length, 0))
    (ends : endsNumber rest = true) :
    readNumber false (c :: tail) = .ok (.integer n, rest) := by
  simp only [readNumber, digit, if_true, taken, left, gathered]
  cases rest with
  | nil => rfl
  | cons d more =>
    simp only [endsNumber, Bool.not_eq_true', Bool.or_eq_false_iff, beq_eq_false_iff_ne] at ends
    rcases ends with ⟨⟨⟨other, point⟩, small⟩, large⟩
    split
    case h_1 same => exact absurd (List.cons.inj same).1 point
    case h_2 same => exact absurd (List.cons.inj same).1 small
    case h_3 same => exact absurd (List.cons.inj same).1 large
    case h_4 => contradiction
    case h_5 same =>
      rcases List.cons.inj same with ⟨rfl, rfl⟩
      simp only [other, Bool.and_false, Bool.false_eq_true, if_false]
      rfl

/-- A number without sign of at most 64 bits is read back. -/
theorem readNumber_toDigits {n : Nat} (fits : n ≤ maxUnsigned) (ends : endsNumber rest = true) :
    readNumber false (Nat.toDigits 10 n ++ rest) = .ok (.integer n, rest) := by
  rcases toDigits_cases n with rfl | ⟨c, digits, written, nonzero⟩
  · exact readNumber_of_gather rfl rfl rfl rfl ends
  · have all : ∀ d ∈ c :: digits, d.isDigit = true := by
      rw [← written]
      exact fun d => Nat.isDigit_of_mem_toDigits (by decide) (by decide)
    have value : Nat.ofDigitChars 10 digits (c.toNat - 48) = n := by
      have same := Nat.ofDigitChars_ten_toDigits (n := n)
      rw [written, Nat.ofDigitChars_cons] at same
      simpa using same
    rcases digits_split (fun d member => all d (List.mem_cons_of_mem _ member)) ends with
      ⟨taken, left⟩
    rw [written, List.cons_append]
    refine readNumber_of_gather (all c List.mem_cons_self) ((if_neg nonzero).trans taken)
      ((if_neg nonzero).trans left) ?_ ends
    rw [gather_of_le (value ▸ fits), value]

end Json
end AsmNotebook
