import AsmNotebook.Text.Utf8
import Mathlib.Data.List.Basic

namespace AsmNotebook
namespace Text

/-!
# What bytes spell

The strict reader walks through bytes with an index, a number of bytes to pass
over and the characters so far.  What it accepts can be said without them:
bytes spell a text if they are the letters of its characters in a row.

A letter is read in the same way whatever follows it, and a byte below 0x80 is
never a part of a longer letter.  So bytes can be cut at a line feed, and what
stands on either side is spelled on its own.
-/

/-- Some bytes are the letter of a character. -/
structure Letter (c : Char) (byte : UInt8) (more : List UInt8) : Prop where
  reads : ∀ after, decodeAt byte (more ++ after) = .char c (more.length + 1)
  high : ∀ other ∈ more, 0x80 ≤ other
  single : byte < 0x80 → more = [] ∧ c = .ofNat byte.toNat
  control : 0 < c.toNat → c.toNat < 0x80 → byte < 0x80

/-- Bytes are letters in a row. -/
inductive Spells : List UInt8 → List Char → Prop
  | nil : Spells [] []
  | cons {c : Char} {byte : UInt8} {more bytes : List UInt8} {cs : List Char}
      (letter : Letter c byte more) (rest : Spells bytes cs) :
      Spells (byte :: (more ++ bytes)) (c :: cs)

/-- The part of a letter behind its first byte, as a reader of several bytes finds it. -/
structure Continues (value : Nat) (low high : UInt8) (more : Nat) (c : Char) (letter : List UInt8) :
    Prop where
  reads : ∀ after, decodeLong value low high more (letter ++ after) = .char c (letter.length + 1)
  high : ∀ other ∈ letter, 0x80 ≤ other
  large : ∃ code, 0x80 ≤ code ∧ c = .ofNat code

theorem le_of_isContinuation {byte : UInt8} (continues : ¬(!isContinuation byte) = true) :
    0x80 ≤ byte := by
  simp only [isContinuation, Bool.not_eq_true, Bool.not_eq_false', Bool.and_eq_true] at continues
  exact of_decide_eq_true continues.1

theorem le_of_inside {low high byte : UInt8}
    (inside : ¬(decide (byte < low) || decide (high < byte)) = true) : low ≤ byte := by
  simp only [Bool.or_eq_true, decide_eq_true_eq, not_or] at inside
  exact UInt8.not_lt.1 inside.1

theorem large_continued {value : Nat} (heavy : 2 ≤ value) (byte : UInt8) :
    0x80 ≤ continued value byte := by
  unfold continued
  omega

theorem two_le_continued {value : Nat} {byte : UInt8} (heavy : 0 < value ∨ 0x82 ≤ byte.toNat) :
    2 ≤ continued value byte := by
  unfold continued
  omega

/-- What is read as a longer letter has a part of it in front.  No character below 0x80 has a longer
letter, since the first two bytes carry too much. -/
theorem exists_continues {value : Nat} {low high : UInt8} {more : Nat} {rest : List UInt8}
    {c : Char} {length : Nat} (above : 0x80 ≤ low)
    (heavy : 2 ≤ value ∨ 0 < more ∧ (0 < value ∨ 0x82 ≤ low.toNat))
    (read : decodeLong value low high more rest = .char c length) :
    ∃ letter tail, rest = letter ++ tail ∧ length = letter.length + 1 ∧
      Continues value low high more c letter := by
  revert read
  -- The letter is complete after its second, third or fourth byte, and nowhere else.
  fun_cases decodeLong value low high more rest
  case case3 second rest inside code =>
    intro read
    rcases Decoded.char.inj read with ⟨rfl, rfl⟩
    have second_high := UInt8.le_trans above (le_of_inside inside)
    have heavy : 2 ≤ value := by omega
    refine ⟨[second], rest, rfl, rfl, ?_, ?_, _, large_continued heavy second, rfl⟩
    · intro after
      simp only [decodeLong, List.cons_append, if_neg inside]
      rfl
    · simpa using second_high
  case case6 second inside code third continues code' rest =>
    intro read
    rcases Decoded.char.inj read with ⟨rfl, rfl⟩
    have second_high := UInt8.le_trans above (le_of_inside inside)
    have third_high := le_of_isContinuation continues
    have above : low.toNat ≤ second.toNat := le_of_inside inside
    have heavy : 2 ≤ code := two_le_continued (by omega)
    refine ⟨[second, third], rest, rfl, rfl, ?_, ?_, _, large_continued heavy third, rfl⟩
    · intro after
      simp only [decodeLong, List.cons_append, if_neg inside, if_neg continues]
      rfl
    · simpa using And.intro second_high third_high
  case case9 second inside code third continues code' n fourth rest continues' =>
    intro read
    rcases Decoded.char.inj read with ⟨rfl, rfl⟩
    have second_high := UInt8.le_trans above (le_of_inside inside)
    have third_high := le_of_isContinuation continues
    have fourth_high := le_of_isContinuation continues'
    have above : low.toNat ≤ second.toNat := le_of_inside inside
    have heavy : 2 ≤ code := two_le_continued (by omega)
    have heavy' : 2 ≤ code' := two_le_continued (.inl (by omega))
    refine ⟨[second, third, fourth], rest, rfl, rfl, ?_, ?_, _, large_continued heavy' fourth, rfl⟩
    · intro after
      simp only [decodeLong, List.cons_append, if_neg inside, if_neg continues, if_neg continues']
      rfl
    · simpa using And.intro second_high (And.intro third_high fourth_high)
  all_goals
    intro read
    cases read

/-- The first byte of a longer letter, as it tells how to read on. -/
structure Opens (byte : UInt8) (value : Nat) (low high : UInt8) (more : Nat) : Prop where
  reads : ∀ rest, decodeAt byte rest = decodeLong value low high more rest
  above : 0x80 ≤ low
  heavy : 2 ≤ value ∨ 0 < more ∧ (0 < value ∨ 0x82 ≤ low.toNat)

theorem le_of_within {low high byte : UInt8} (within : (low ≤ byte && byte ≤ high) = true) :
    low.toNat ≤ byte.toNat := by
  rw [Bool.and_eq_true] at within
  exact of_decide_eq_true within.1

/-- A byte is a letter, or opens a longer one, or neither. -/
theorem decodeAt_cases (byte : UInt8) :
    (byte < 0x80 ∧ ∀ rest, decodeAt byte rest = .char (.ofNat byte.toNat) 1) ∨
      (¬ byte < 0x80 ∧ ∃ value low high more, Opens byte value low high more) ∨
      ∀ rest, decodeAt byte rest = .invalid (some 1) := by
  fun_cases decodeAt byte []
  case case1 ascii =>
    refine .inl ⟨ascii, fun rest => ?_⟩
    rw [decodeAt, if_pos ascii]
  case case2 long two =>
    have lead : 0xC2 ≤ byte.toNat := le_of_within two
    refine .inr (.inl ⟨long, byte.toNat - 0xC0, 0x80, 0xBF, 0, fun rest => ?_, by decide, ?_⟩)
    · rw [decodeAt, if_neg long, if_pos two]
    · omega
  case case3 long two three =>
    refine .inr (.inl ⟨long, 0, 0xA0, 0xBF, 1, fun rest => ?_, by decide, by decide⟩)
    rw [decodeAt, if_neg long, if_neg two, if_pos three]
  case case4 long two three three' =>
    refine .inr (.inl ⟨long, 13, 0x80, 0x9F, 1, fun rest => ?_, by decide, by decide⟩)
    rw [decodeAt, if_neg long, if_neg two, if_neg three, if_pos three']
  case case5 long two three three' three'' =>
    have lead : 0xE1 ≤ byte.toNat := le_of_within three''
    refine .inr (.inl ⟨long, byte.toNat - 0xE0, 0x80, 0xBF, 1, fun rest => ?_, by decide, ?_⟩)
    · rw [decodeAt, if_neg long, if_neg two, if_neg three, if_neg three', if_pos three'']
    · omega
  case case6 long two three three' three'' four =>
    refine .inr (.inl ⟨long, 0, 0x90, 0xBF, 2, fun rest => ?_, by decide, by decide⟩)
    rw [decodeAt, if_neg long, if_neg two, if_neg three, if_neg three', if_neg three'', if_pos four]
  case case7 long two three three' three'' four four' =>
    have lead : 0xF1 ≤ byte.toNat := le_of_within four'
    refine .inr (.inl ⟨long, byte.toNat - 0xF0, 0x80, 0xBF, 2, fun rest => ?_, by decide, ?_⟩)
    · rw [decodeAt, if_neg long, if_neg two, if_neg three, if_neg three', if_neg three'',
        if_neg four, if_pos four']
    · omega
  case case8 long two three three' three'' four four' four'' =>
    refine .inr (.inl ⟨long, 4, 0x80, 0x8F, 2, fun rest => ?_, by decide, by decide⟩)
    rw [decodeAt, if_neg long, if_neg two, if_neg three, if_neg three', if_neg three'', if_neg four,
      if_neg four', if_pos four'']
  case case9 long two three three' three'' four four' four'' =>
    refine .inr (.inr fun rest => ?_)
    rw [decodeAt, if_neg long, if_neg two, if_neg three, if_neg three', if_neg three'', if_neg four,
      if_neg four', if_neg four'']

theorem toNat_ofNat_of_valid {code : Nat} (valid : code.isValidChar) :
    (Char.ofNat code).toNat = code := by
  rw [Char.ofNat, dif_pos valid]
  rfl

/-- A code beyond 0x80 is that of no character below, save that the null character stands for all
codes without a character. -/
theorem le_toNat_ofNat {code : Nat} (large : 0x80 ≤ code) (visible : 0 < (Char.ofNat code).toNat) :
    0x80 ≤ (Char.ofNat code).toNat := by
  by_cases valid : code.isValidChar
  · rw [toNat_ofNat_of_valid valid]
    exact large
  · rw [Char.ofNat, dif_neg valid] at visible
    exact absurd visible (Nat.lt_irrefl 0)

/-- What is read as a character has its letter in front. -/
theorem exists_letter {byte : UInt8} {rest : List UInt8} {c : Char} {length : Nat}
    (read : decodeAt byte rest = .char c length) :
    ∃ more tail, rest = more ++ tail ∧ length = more.length + 1 ∧ Letter c byte more := by
  rcases decodeAt_cases byte with ⟨ascii, reads⟩ | ⟨long, value, low, high, more, opens⟩ | reads
  · rcases Decoded.char.inj ((reads rest).symm.trans read) with ⟨rfl, rfl⟩
    refine ⟨[], rest, rfl, rfl, reads, fun _ member => absurd member List.not_mem_nil,
      fun _ => ⟨rfl, rfl⟩, fun _ _ => ascii⟩
  · rw [opens.reads] at read
    rcases exists_continues opens.above opens.heavy read with ⟨letter, tail, rfl, rfl, continues⟩
    rcases continues.large with ⟨code, large, rfl⟩
    refine ⟨letter, tail, rfl, rfl, ?_, continues.high, fun ascii => absurd ascii long, ?_⟩
    · intro after
      rw [opens.reads]
      exact continues.reads after
    · intro visible below
      exact absurd below (Nat.not_lt.2 (le_toNat_ofNat large visible))
  · rw [reads] at read
    cases read

/-- The rest of a letter is passed over. -/
theorem decodeFrom_pass (more bytes : List UInt8) (index : Nat) (carried : List Char) :
    decodeFrom more.length index carried (more ++ bytes) =
      decodeFrom 0 (index + more.length) carried bytes := by
  induction more generalizing index with
  | nil => rfl
  | cons byte more inductionHypothesis =>
    rw [List.length_cons, List.cons_append, decodeFrom, inductionHypothesis]
    congr 1
    omega

/-- What is spelled is read, wherever it stands. -/
theorem Spells.read {bytes : List UInt8} {cs : List Char} (spells : Spells bytes cs) (index : Nat)
    (carried : List Char) : decodeFrom 0 index carried bytes = .ok (carried.reverse ++ cs) := by
  induction spells generalizing index carried with
  | nil => simp [decodeFrom]
  | cons letter rest inductionHypothesis =>
    simp [decodeFrom, letter.reads, decodeFrom_pass, inductionHypothesis]

/-- What is read is spelled, behind the bytes that are passed over. -/
theorem exists_spells {bytes : List UInt8} {cs : List Char} {pass index : Nat} {carried : List Char}
    (read : decodeFrom pass index carried bytes = .ok cs) :
    ∃ rest, cs = carried.reverse ++ rest ∧ Spells (bytes.drop pass) rest := by
  induction bytes generalizing pass index carried with
  | nil =>
    cases read
    refine ⟨[], (List.append_nil _).symm, ?_⟩
    rw [List.drop_nil]
    exact .nil
  | cons byte bytes inductionHypothesis =>
    cases pass with
    | succ pass => exact inductionHypothesis read
    | zero =>
      unfold decodeFrom at read
      split at read
      · next c length here =>
        rcases exists_letter here with ⟨more, tail, rfl, rfl, letter⟩
        rcases inductionHypothesis read with ⟨rest, rfl, spells⟩
        rw [Nat.add_sub_cancel, List.drop_left] at spells
        exact ⟨c :: rest, by simp, .cons letter spells⟩
      · cases read

/-- Bytes spell a text exactly if the strict reader accepts them. -/
theorem spells_iff {bytes : List UInt8} {cs : List Char} :
    decodeFrom 0 0 [] bytes = .ok cs ↔ Spells bytes cs := by
  constructor
  · intro read
    rcases exists_spells read with ⟨rest, rfl, spells⟩
    exact spells
  · intro spells
    exact spells.read 0 []

/-- Texts in a row. -/
theorem Spells.append {front back : List UInt8} {cs ds : List Char} (spells : Spells front cs)
    (spells' : Spells back ds) : Spells (front ++ back) (cs ++ ds) := by
  induction spells with
  | nil => exact spells'
  | cons letter rest inductionHypothesis =>
    rw [List.cons_append, List.cons_append, List.append_assoc]
    exact .cons letter inductionHypothesis

/-- What stands behind a line feed is spelled on its own. -/
theorem Spells.behind {front back : List UInt8} {cs : List Char}
    (spells : Spells (front ++ 10 :: back) cs) : ∃ ds, Spells back ds := by
  generalize whole : front ++ 10 :: back = bytes at spells
  induction spells generalizing front with
  | nil => simp at whole
  | @cons c byte more bytes cs letter rest inductionHypothesis =>
    cases front with
    | nil =>
      rcases List.cons.inj whole with ⟨rfl, rfl⟩
      rw [(letter.single (by decide)).1]
      exact ⟨cs, rest⟩
    | cons first front =>
      rcases List.append_eq_append_iff.1 (List.cons.inj whole).2 with
        ⟨inside, rfl, there⟩ | ⟨before, rfl, there⟩
      · -- The line feed would be inside of the letter, unless the letter ends before it.
        cases inside with
        | nil =>
          have behind : [] ++ 10 :: back = bytes := there
          exact inductionHypothesis behind
        | cons byte' inside =>
          rcases List.cons.inj there with ⟨rfl, _⟩
          have high : (0x80 : UInt8) ≤ 10 := letter.high 10 (by simp)
          exact absurd high (by decide)
      · exact inductionHypothesis there.symm

/-- A text ends in an ASCII character only if its bytes do. -/
theorem Spells.getLast? {bytes : List UInt8} {cs : List Char} (spells : Spells bytes cs) {c : Char}
    (last : cs.getLast? = some c) (visible : 0 < c.toNat) (ascii : c.toNat < 0x80) :
    bytes.getLast? = some (.ofNat c.toNat) := by
  induction spells with
  | nil => cases last
  | @cons d byte more bytes cs letter rest inductionHypothesis =>
    cases rest with
    | nil =>
      have same : d = c := Option.some.inj last
      subst same
      have low := letter.control visible ascii
      rcases letter.single low with ⟨rfl, rfl⟩
      have valid : byte.toNat.isValidChar := .inl (Nat.lt_trans byte.toNat_lt (by decide))
      rw [toNat_ofNat_of_valid valid, UInt8.ofNat_toNat]
      rfl
    | @cons d' byte' more' bytes' cs' letter' rest' =>
      rw [List.getLast?_cons_cons] at last
      rw [← List.cons_append, List.getLast?_append_of_ne_nil _ (List.cons_ne_nil byte' _)]
      exact inductionHypothesis last

end Text
end AsmNotebook
