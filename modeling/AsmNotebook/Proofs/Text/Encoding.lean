import AsmNotebook.Proofs.Text.Decoding

namespace AsmNotebook
namespace Text

/-!
# Written bytes spell their text

A text is written as the bytes of its characters in a row, and the strict
reader gives it back.  For one character this is arithmetic: the first byte
holds its topmost bits and says how many bytes follow, and each of these holds
six bits more.  The ranges that the reader has for the second byte are those of
the characters that need so many bytes, but for the numbers between 0xD800 and
0xDFFF, which are no characters.
-/

/-- A byte behind the first one, with the lowest six bits of a number. -/
def trail (n : Nat) : UInt8 :=
  .ofNat (n % 64 + 128)

theorem toNat_trail (n : Nat) : (trail n).toNat = n % 64 + 128 := by
  rw [trail, UInt8.toNat_ofNat']
  omega

theorem continued_trail (value n : Nat) : continued value (trail n) = value * 64 + n % 64 := by
  unfold continued
  rw [toNat_trail]
  omega

theorem isContinuation_trail (n : Nat) : isContinuation (trail n) = true := by
  simp only [isContinuation, UInt8.le_iff_toNat_le, toNat_trail, UInt8.reduceToNat,
    Bool.and_eq_true, decide_eq_true_eq]
  omega

/-- The bytes behind the first one are read together, if the second byte is in its range. -/
theorem decodeLong_trail {value n : Nat} {low high : UInt8} (above : low.toNat ≤ n % 64 + 128)
    (below : n % 64 + 128 ≤ high.toNat) :
    decodeLong value low high 0 [trail n] = .char (.ofNat (value * 64 + n % 64)) 2 ∧
    (∀ n', decodeLong value low high 1 [trail n, trail n'] =
      .char (.ofNat ((value * 64 + n % 64) * 64 + n' % 64)) 3) ∧
    ∀ n' n'', decodeLong value low high 2 [trail n, trail n', trail n''] =
      .char (.ofNat (((value * 64 + n % 64) * 64 + n' % 64) * 64 + n'' % 64)) 4 := by
  have inside : ¬(decide (trail n < low) || decide (high < trail n)) = true := by
    simp only [UInt8.lt_iff_toNat_lt, toNat_trail, Bool.or_eq_true, decide_eq_true_eq]
    omega
  simp [decodeLong, inside, isContinuation_trail, continued_trail]

/-- What stands at a byte, by its number.  Of first bytes that announce two or three more, the ones
at the ends of their range have a range of their own for the second byte. -/
theorem decodeAt_eq (byte : UInt8) (rest : List UInt8) :
    decodeAt byte rest =
      if byte.toNat < 0x80 then .char (.ofNat byte.toNat) 1
      else if 0xC2 ≤ byte.toNat ∧ byte.toNat ≤ 0xDF then
        decodeLong (byte.toNat - 0xC0) 0x80 0xBF 0 rest
      else if 0xE0 ≤ byte.toNat ∧ byte.toNat ≤ 0xEF then
        decodeLong (byte.toNat - 0xE0) (if byte.toNat = 0xE0 then 0xA0 else 0x80)
          (if byte.toNat = 0xED then 0x9F else 0xBF) 1 rest
      else if 0xF0 ≤ byte.toNat ∧ byte.toNat ≤ 0xF4 then
        decodeLong (byte.toNat - 0xF0) (if byte.toNat = 0xF0 then 0x90 else 0x80)
          (if byte.toNat = 0xF4 then 0x8F else 0xBF) 2 rest
      else .invalid (some 1) := by
  simp only [decodeAt, UInt8.lt_iff_toNat_lt, UInt8.le_iff_toNat_le, beq_iff_eq, ← UInt8.toNat_inj,
    UInt8.reduceToNat, Bool.and_eq_true, decide_eq_true_eq]
  grind

/-! ## One character -/

section

variable {n : Nat}

theorem toNat_lead (fits : n < 256) : (UInt8.ofNat n).toNat = n := by
  rw [UInt8.toNat_ofNat']
  omega

theorem decodeAt_one (below : n < 0x80) : decodeAt (.ofNat n) [] = .char (.ofNat n) 1 := by
  have lead : (UInt8.ofNat n).toNat = n := toNat_lead (by omega)
  rw [decodeAt_eq, lead, if_pos below]

theorem decodeAt_two (above : 0x80 ≤ n) (below : n < 0x800) :
    decodeAt (.ofNat (n / 64 % 32 + 192)) [trail n] = .char (.ofNat n) 2 := by
  have lead : (UInt8.ofNat (n / 64 % 32 + 192)).toNat = n / 64 + 192 := by
    rw [toNat_lead] <;> omega
  have low : (0x80 : UInt8).toNat ≤ n % 64 + 128 := Nat.le_add_left 128 _
  have high : n % 64 + 128 ≤ (0xBF : UInt8).toNat := by
    change _ ≤ 191
    omega
  have value : (n / 64 + 192 - 0xC0) * 64 + n % 64 = n := by omega
  rw [decodeAt_eq, lead, if_neg (by omega), if_pos (by omega), (decodeLong_trail low high).1, value]

theorem decodeAt_three (above : 0x800 ≤ n) (below : n < 0x10000)
    (scalar : n < 0xD800 ∨ 0xDFFF < n) :
    decodeAt (.ofNat (n / 4096 % 16 + 224)) [trail (n / 64), trail n] = .char (.ofNat n) 3 := by
  have lead : (UInt8.ofNat (n / 4096 % 16 + 224)).toNat = n / 4096 + 224 := by
    rw [toNat_lead] <;> omega
  have low : (if n / 4096 + 224 = 0xE0 then 0xA0 else 0x80 : UInt8).toNat ≤ n / 64 % 64 + 128 := by
    split_ifs
    · change 160 ≤ _
      omega
    · exact Nat.le_add_left 128 _
  have high : n / 64 % 64 + 128 ≤ (if n / 4096 + 224 = 0xED then 0x9F else 0xBF : UInt8).toNat := by
    split_ifs
    · change _ ≤ 159
      omega
    · change _ ≤ 191
      omega
  have value : ((n / 4096 + 224 - 0xE0) * 64 + n / 64 % 64) * 64 + n % 64 = n := by omega
  rw [decodeAt_eq, lead, if_neg (by omega), if_neg (by omega), if_pos (by omega),
    (decodeLong_trail low high).2.1, value]

theorem decodeAt_four (above : 0x10000 ≤ n) (below : n < 0x110000) :
    decodeAt (.ofNat (n / 262144 % 8 + 240)) [trail (n / 4096), trail (n / 64), trail n] =
      .char (.ofNat n) 4 := by
  have lead : (UInt8.ofNat (n / 262144 % 8 + 240)).toNat = n / 262144 + 240 := by
    rw [toNat_lead] <;> omega
  have low :
      (if n / 262144 + 240 = 0xF0 then 0x90 else 0x80 : UInt8).toNat ≤ n / 4096 % 64 + 128 := by
    split_ifs
    · change 144 ≤ _
      omega
    · exact Nat.le_add_left 128 _
  have high :
      n / 4096 % 64 + 128 ≤ (if n / 262144 + 240 = 0xF4 then 0x8F else 0xBF : UInt8).toNat := by
    split_ifs
    · change _ ≤ 143
      omega
    · change _ ≤ 191
      omega
  have value :
      (((n / 262144 + 240 - 0xF0) * 64 + n / 4096 % 64) * 64 + n / 64 % 64) * 64 + n % 64 = n := by
    omega
  rw [decodeAt_eq, lead, if_neg (by omega), if_neg (by omega), if_neg (by omega),
    if_pos (by omega), (decodeLong_trail low high).2.2, value]

end

/-- The bytes of a character are read as this character. -/
theorem decodeAt_utf8EncodeChar (c : Char) :
    ∃ byte more, String.utf8EncodeChar c = byte :: more ∧
      decodeAt byte more = .char c (more.length + 1) := by
  have scalar : c.toNat < 0xD800 ∨ 0xDFFF < c.toNat ∧ c.toNat < 0x110000 := c.valid
  have same : Char.ofNat c.toNat = c := Char.ofNat_toNat c
  have written : String.utf8EncodeChar c =
      if c.toNat ≤ 127 then [.ofNat c.toNat]
      else if c.toNat ≤ 2047 then [.ofNat (c.toNat / 64 % 32 + 192), trail c.toNat]
      else if c.toNat ≤ 65535 then
        [.ofNat (c.toNat / 4096 % 16 + 224), trail (c.toNat / 64), trail c.toNat]
      else
        [.ofNat (c.toNat / 262144 % 8 + 240), trail (c.toNat / 4096), trail (c.toNat / 64),
          trail c.toNat] := rfl
  rw [written]
  generalize c.toNat = n at scalar same
  subst same
  split_ifs
  · exact ⟨_, _, rfl, decodeAt_one (by omega)⟩
  · exact ⟨_, _, rfl, decodeAt_two (by omega) (by omega)⟩
  · exact ⟨_, _, rfl, decodeAt_three (by omega) (by omega) (by omega)⟩
  · exact ⟨_, _, rfl, decodeAt_four (by omega) (by omega)⟩

/-- The bytes of a character are its letter. -/
theorem exists_letter_eq_utf8EncodeChar (c : Char) :
    ∃ byte more, String.utf8EncodeChar c = byte :: more ∧ Letter c byte more := by
  rcases decodeAt_utf8EncodeChar c with ⟨byte, more, written, read⟩
  rcases exists_letter read with ⟨front, tail, rfl, length, letter⟩
  have none : tail = [] := by
    rw [List.length_append] at length
    exact List.eq_nil_of_length_eq_zero (by omega)
  subst none
  rw [List.append_nil] at written
  exact ⟨byte, front, written, letter⟩

/-! ## Whole texts -/

theorem spells_utf8Encode (cs : List Char) : Spells (cs.flatMap String.utf8EncodeChar) cs := by
  induction cs with
  | nil => exact .nil
  | cons c cs inductionHypothesis =>
    rcases exists_letter_eq_utf8EncodeChar c with ⟨byte, more, written, letter⟩
    rw [List.flatMap_cons, written, List.cons_append]
    exact .cons letter inductionHypothesis

theorem toList_loop (bytes : ByteArray) (i : Nat) (carried : List UInt8) :
    ByteArray.toList.loop bytes i carried = carried.reverse ++ bytes.data.toList.drop i := by
  fun_induction ByteArray.toList.loop bytes i carried with
  | case1 i carried inside inductionHypothesis =>
    have inside' : i < bytes.data.toList.length := inside
    rw [inductionHypothesis, List.drop_eq_getElem_cons inside', List.reverse_cons,
      List.append_assoc]
    simp [ByteArray.get!, inside]
  | case2 i carried outside =>
    have outside' : bytes.data.toList.length ≤ i := Nat.le_of_not_lt outside
    rw [List.drop_eq_nil_of_le outside', List.append_nil]

theorem toList_toUTF8 (text : String) :
    text.toUTF8.toList = text.toList.flatMap String.utf8EncodeChar := by
  have written : text.toUTF8 = (text.toList.flatMap String.utf8EncodeChar).toByteArray := by
    calc
      text.toUTF8 = (String.ofList text.toList).toByteArray := by rw [String.ofList_toList]; rfl
      _ = (text.toList.flatMap String.utf8EncodeChar).toByteArray := String.toByteArray_ofList
  rw [written, ByteArray.toList, toList_loop, List.toList_data_toByteArray]
  rfl

/-- A text that is written is read. -/
theorem decode_toUTF8 (text : String) : decode text.toUTF8.toList = .ok text := by
  rw [decode, toList_toUTF8, spells_iff.2 (spells_utf8Encode text.toList)]
  exact congrArg Except.ok String.ofList_toList

end Text
end AsmNotebook
