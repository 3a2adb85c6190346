import Toolpath.Text.Utf8

/-! Reading back the bytes of a text. -/

namespace Toolpath.Text

theorem isTail_ofNat (value : Nat) : isTail (UInt8.ofNat (value % 64 + 128)) = true := by
  have byte : (UInt8.ofNat (value % 64 + 128)).toNat = value % 64 + 128 :=
    UInt8.toNat_ofNat_of_lt' (show _ < 256 by omega)
  simp only [isTail, byte, Bool.and_eq_true, decide_eq_true_eq]
  omega

theorem tailBits_ofNat (value : Nat) : tailBits (UInt8.ofNat (value % 64 + 128)) = value % 64 := by
  rw [tailBits, UInt8.toNat_ofNat_of_lt' (show _ < 256 by omega)]
  omega

section

variable {value : Nat} (rest : List UInt8)

theorem sequence?_of_one (last : value ≤ 0x7F) :
    sequence? (UInt8.ofNat value) rest = some (Char.ofNat value, 0) := by
  have lead : (UInt8.ofNat value).toNat = value := UInt8.toNat_ofNat_of_lt' (show _ < 256 by omega)
  unfold sequence?
  rw [lead, if_pos (by omega)]

theorem sequence?_of_two (first : 0x7F < value) (last : value ≤ 0x7FF) :
    sequence? (UInt8.ofNat (value / 64 % 32 + 192)) (UInt8.ofNat (value % 64 + 128) :: rest) =
      some (Char.ofNat value, 1) := by
  have lead : (UInt8.ofNat (value / 64 % 32 + 192)).toNat = value / 64 % 32 + 192 :=
    UInt8.toNat_ofNat_of_lt' (show _ < 256 by omega)
  have joined : (value / 64 % 32 + 192) % 32 * 64 + value % 64 = value := by omega
  unfold sequence? twoBytes?
  rw [lead, if_neg (by omega), if_pos (by omega)]
  simp only [isTail_ofNat, tailBits_ofNat, joined]
  rw [if_pos]
  · rfl
  · simp only [Bool.and_eq_true, decide_eq_true_eq, and_true]
    omega

theorem sequence?_of_three (first : 0x7FF < value) (last : value ≤ 0xFFFF)
    (valid : value.isValidChar) :
    sequence? (UInt8.ofNat (value / 4096 % 16 + 224)) (UInt8.ofNat (value / 64 % 64 + 128) ::
      UInt8.ofNat (value % 64 + 128) :: rest) = some (Char.ofNat value, 2) := by
  have lead : (UInt8.ofNat (value / 4096 % 16 + 224)).toNat = value / 4096 % 16 + 224 :=
    UInt8.toNat_ofNat_of_lt' (show _ < 256 by omega)
  have joined : (value / 4096 % 16 + 224) % 16 * 4096 + value / 64 % 64 * 64 + value % 64 =
      value := by omega
  unfold sequence? threeBytes?
  rw [lead, if_neg (by omega), if_neg (by omega), if_pos (by omega)]
  simp only [isTail_ofNat, tailBits_ofNat, joined]
  rw [if_pos]
  · rfl
  · simp only [Bool.and_eq_true, Bool.not_eq_true', Bool.and_eq_false_iff, decide_eq_true_eq,
      decide_eq_false_iff_not, and_true]
    omega

theorem sequence?_of_four (first : 0xFFFF < value) (valid : value.isValidChar) :
    sequence? (UInt8.ofNat (value / 262144 % 8 + 240)) (UInt8.ofNat (value / 4096 % 64 + 128) ::
      UInt8.ofNat (value / 64 % 64 + 128) :: UInt8.ofNat (value % 64 + 128) :: rest) =
      some (Char.ofNat value, 3) := by
  have lead : (UInt8.ofNat (value / 262144 % 8 + 240)).toNat = value / 262144 % 8 + 240 :=
    UInt8.toNat_ofNat_of_lt' (show _ < 256 by omega)
  have joined : (value / 262144 % 8 + 240) % 8 * 262144 + value / 4096 % 64 * 4096 +
      value / 64 % 64 * 64 + value % 64 = value := by omega
  unfold sequence? fourBytes?
  rw [lead, if_neg (by omega), if_neg (by omega), if_neg (by omega)]
  simp only [isTail_ofNat, tailBits_ofNat, joined]
  rw [if_pos]
  · rfl
  · simp only [Bool.and_eq_true, decide_eq_true_eq, and_true]
    omega

end

theorem decodeAfter_of_sequence? {lead : UInt8} {rest : List UInt8} {char : Char} {more : Nat}
    (read : sequence? lead rest = some (char, more)) :
    decodeAfter 0 (lead :: rest) = char :: decodeAfter more rest := by
  rw [decodeAfter, read]

theorem decodeAfter_utf8EncodeChar (char : Char) (rest : List UInt8) :
    decodeAfter 0 (String.utf8EncodeChar char ++ rest) = char :: decodeAfter 0 rest := by
  have valid : char.val.toNat.isValidChar := char.valid
  have same : Char.ofNat char.val.toNat = char := Char.ofNat_toNat char
  rw [String.utf8EncodeChar]
  by_cases one : char.val.toNat ≤ 0x7F
  · simp only [if_pos one, List.cons_append, List.nil_append]
    rw [decodeAfter_of_sequence? (sequence?_of_one _ one), same]
  by_cases two : char.val.toNat ≤ 0x7FF
  · simp only [if_neg one, if_pos two, List.cons_append, List.nil_append]
    rw [decodeAfter_of_sequence? (sequence?_of_two _ (by omega) two), same]
    rfl
  by_cases three : char.val.toNat ≤ 0xFFFF
  · simp only [if_neg one, if_neg two, if_pos three, List.cons_append, List.nil_append]
    rw [decodeAfter_of_sequence? (sequence?_of_three _ (by omega) three valid), same]
    rfl
  · simp only [if_neg one, if_neg two, if_neg three, List.cons_append, List.nil_append]
    rw [decodeAfter_of_sequence? (sequence?_of_four _ (by omega) valid), same]
    rfl

theorem decodeUtf8_encodeUtf8 (text : List Char) : decodeUtf8 (encodeUtf8 text) = text := by
  rw [decodeUtf8, encodeUtf8]
  induction text with
  | nil => rfl
  | cons char rest ih => rw [List.flatMap_cons, decodeAfter_utf8EncodeChar, ih]

end Toolpath.Text
