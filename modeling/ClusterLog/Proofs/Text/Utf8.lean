import ClusterLog.Text.Utf8
import Mathlib.Tactic.Common

/-!
# Laws of UTF-8

A text that is written as UTF-8 is read back as itself.  A lead byte says how
many bytes belong to its character, and the bounds of the second byte, which
keep out overlong forms and surrogates, let pass the bytes of every character.
-/

namespace ClusterLog.Text

/-! ## Bytes -/

/-- The byte continues a sequence. -/
def IsTail (byte : UInt8) : Prop :=
  0x80 ≤ byte.toNat ∧ byte.toNat ≤ 0xBF

theorem isContinuation_iff {byte : UInt8} :
    isContinuation byte = true ↔ IsTail byte := by
  simp [isContinuation, IsTail, UInt8.le_iff_toNat_le]

theorem isSecondOfThree_eq_true (lead : UInt8) {byte : UInt8} (tail : IsTail byte)
    (long : lead.toNat = 0xE0 → 0xA0 ≤ byte.toNat)
    (scalar : lead.toNat = 0xED → byte.toNat ≤ 0x9F) :
    isSecondOfThree lead byte = true := by
  rcases tail with ⟨lower, upper⟩
  simp only [isSecondOfThree, beq_iff_eq, ← UInt8.toNat_inj]
  split
  · rename_i first
    simpa [UInt8.le_iff_toNat_le] using ⟨long first, upper⟩
  · split
    · rename_i last
      simpa [UInt8.le_iff_toNat_le] using ⟨lower, scalar last⟩
    · exact isContinuation_iff.mpr ⟨lower, upper⟩

theorem isSecondOfFour_eq_true (lead : UInt8) {byte : UInt8} (tail : IsTail byte)
    (long : lead.toNat = 0xF0 → 0x90 ≤ byte.toNat)
    (within : lead.toNat = 0xF4 → byte.toNat ≤ 0x8F) :
    isSecondOfFour lead byte = true := by
  rcases tail with ⟨lower, upper⟩
  simp only [isSecondOfFour, beq_iff_eq, ← UInt8.toNat_inj]
  split
  · rename_i first
    simpa [UInt8.le_iff_toNat_le] using ⟨long first, upper⟩
  · split
    · rename_i last
      simpa [UInt8.le_iff_toNat_le] using ⟨lower, within last⟩
    · exact isContinuation_iff.mpr ⟨lower, upper⟩

/-! ## Sequences -/

section Sequences

variable {b0 b1 b2 b3 : UInt8}

theorem between_iff (low high : UInt8) :
    (low ≤ b0 && b0 ≤ high) = true ↔
      low.toNat ≤ b0.toNat ∧ b0.toNat ≤ high.toNat := by
  simp [UInt8.le_iff_toNat_le]

theorem not_between (low high : UInt8) (above : high.toNat < b0.toNat) :
    ¬ (low ≤ b0 && b0 ≤ high) = true :=
  fun within => Nat.not_le_of_lt above ((between_iff low high).mp within).2

/-- The lead byte of a longer sequence is beyond ASCII. -/
theorem not_ascii (lead : 0xC2 ≤ b0.toNat) : ¬ b0 < 0x80 := by
  intro low
  have small : b0.toNat < 0x80 := UInt8.lt_iff_toNat_lt.mp low
  omega

theorem decodeUtf8_one (lead : b0.toNat < 0x80) (rest : List UInt8) :
    decodeUtf8 (b0 :: rest) = Char.ofNat b0.toNat :: decodeUtf8 rest := by
  have low : b0 < 0x80 := UInt8.lt_iff_toNat_lt.mpr lead
  rw [decodeUtf8.eq_def]
  dsimp only
  rw [if_pos low]

theorem decodeUtf8_two (lead : 0xC2 ≤ b0.toNat ∧ b0.toNat ≤ 0xDF)
    (tail : IsTail b1) (rest : List UInt8) :
    decodeUtf8 (b0 :: b1 :: rest) =
      Char.ofNat (appendBits (b0.toNat - 0xC0) b1) :: decodeUtf8 rest := by
  rw [decodeUtf8.eq_def]
  dsimp only
  rw [if_neg (not_ascii lead.1), if_pos ((between_iff 0xC2 0xDF).mpr lead),
    if_pos (isContinuation_iff.mpr tail)]

theorem decodeUtf8_three (lead : 0xE0 ≤ b0.toNat ∧ b0.toNat ≤ 0xEF)
    (second : isSecondOfThree b0 b1 = true) (tail : IsTail b2)
    (rest : List UInt8) :
    decodeUtf8 (b0 :: b1 :: b2 :: rest) =
      Char.ofNat (appendBits (appendBits (b0.toNat - 0xE0) b1) b2) ::
        decodeUtf8 rest := by
  have high : 0xDF < b0.toNat := by omega
  rw [decodeUtf8.eq_def]
  dsimp only
  rw [if_neg (not_ascii (by omega)), if_neg (not_between 0xC2 0xDF high),
    if_pos ((between_iff 0xE0 0xEF).mpr lead), if_pos second,
    if_pos (isContinuation_iff.mpr tail)]

theorem decodeUtf8_four (lead : 0xF0 ≤ b0.toNat ∧ b0.toNat ≤ 0xF4)
    (second : isSecondOfFour b0 b1 = true) (third : IsTail b2)
    (fourth : IsTail b3) (rest : List UInt8) :
    decodeUtf8 (b0 :: b1 :: b2 :: b3 :: rest) =
      Char.ofNat
          (appendBits (appendBits (appendBits (b0.toNat - 0xF0) b1) b2) b3) ::
        decodeUtf8 rest := by
  have high : 0xDF < b0.toNat := by omega
  have higher : 0xEF < b0.toNat := by omega
  rw [decodeUtf8.eq_def]
  dsimp only
  rw [if_neg (not_ascii (by omega)), if_neg (not_between 0xC2 0xDF high),
    if_neg (not_between 0xE0 0xEF higher),
    if_pos ((between_iff 0xF0 0xF4).mpr lead), if_pos second,
    if_pos (isContinuation_iff.mpr third),
    if_pos (isContinuation_iff.mpr fourth)]

end Sequences

/-! ## Characters -/

theorem toNat_ofNat_byte {value : Nat} (small : value < 256) :
    (UInt8.ofNat value).toNat = value :=
  UInt8.toNat_ofNat_of_lt' small

/-- A byte that continues a sequence carries six bits. -/
theorem isTail_ofNat {bits : Nat} (small : bits < 64) :
    IsTail (UInt8.ofNat (bits + 128)) := by
  rw [IsTail, toNat_ofNat_byte (by omega)]
  omega

theorem appendBits_ofNat {bits : Nat} (small : bits < 64) (value : Nat) :
    appendBits value (UInt8.ofNat (bits + 128)) = value * 64 + bits := by
  have byte : (UInt8.ofNat (bits + 128)).toNat = bits + 128 :=
    toNat_ofNat_byte (by omega)
  unfold appendBits
  rw [byte, Nat.add_sub_cancel]

/-- The bytes of a character are read as the character. -/
theorem decodeUtf8_utf8EncodeChar (c : Char) (rest : List UInt8) :
    decodeUtf8 (String.utf8EncodeChar c ++ rest) = c :: decodeUtf8 rest := by
  have whole : Char.ofNat c.val.toNat = c := Char.ofNat_toNat c
  have scalar : c.val.toNat < 55296 ∨ 57343 < c.val.toNat ∧
      c.val.toNat < 1114112 := c.valid
  rw [String.utf8EncodeChar]
  generalize c.val.toNat = code at whole scalar
  have sixBits : ∀ value : Nat, value % 64 < 64 :=
    fun value => Nat.mod_lt _ (by decide)
  by_cases one : code ≤ 0x7F
  · have lead : (UInt8.ofNat code).toNat = code := toNat_ofNat_byte (by omega)
    rw [if_pos one, List.singleton_append, decodeUtf8_one (by omega), lead,
      whole]
  by_cases two : code ≤ 0x7FF
  · have lead := toNat_ofNat_byte (show code / 64 % 32 + 0xC0 < 256 by omega)
    have value : (code / 64 % 32 + 0xC0 - 0xC0) * 64 + code % 64 = code := by
      omega
    rw [if_neg one, if_pos two, List.cons_append, List.singleton_append,
      decodeUtf8_two (by omega) (isTail_ofNat (sixBits _)), lead,
      appendBits_ofNat (sixBits _), value, whole]
  by_cases three : code ≤ 0xFFFF
  · have lead := toNat_ofNat_byte (show code / 4096 % 16 + 0xE0 < 256 by omega)
    have next := toNat_ofNat_byte (show code / 64 % 64 + 0x80 < 256 by omega)
    have second := isSecondOfThree_eq_true
      (UInt8.ofNat (code / 4096 % 16 + 0xE0))
      (isTail_ofNat (sixBits (code / 64))) (by omega) (by omega)
    have value : ((code / 4096 % 16 + 0xE0 - 0xE0) * 64 + code / 64 % 64) * 64 +
        code % 64 = code := by
      omega
    rw [if_neg one, if_neg two, if_pos three]
    simp only [List.cons_append, List.nil_append]
    rw [decodeUtf8_three (by omega) second (isTail_ofNat (sixBits _)), lead,
      appendBits_ofNat (sixBits _), appendBits_ofNat (sixBits _), value, whole]
  · have lead := toNat_ofNat_byte (show code / 262144 % 8 + 0xF0 < 256 by omega)
    have next := toNat_ofNat_byte (show code / 4096 % 64 + 0x80 < 256 by omega)
    have second := isSecondOfFour_eq_true
      (UInt8.ofNat (code / 262144 % 8 + 0xF0))
      (isTail_ofNat (sixBits (code / 4096))) (by omega) (by omega)
    have value : (((code / 262144 % 8 + 0xF0 - 0xF0) * 64 +
        code / 4096 % 64) * 64 + code / 64 % 64) * 64 + code % 64 = code := by
      omega
    rw [if_neg one, if_neg two, if_neg three]
    simp only [List.cons_append, List.nil_append]
    rw [decodeUtf8_four (by omega) second (isTail_ofNat (sixBits _))
      (isTail_ofNat (sixBits _)), lead, appendBits_ofNat (sixBits _),
      appendBits_ofNat (sixBits _), appendBits_ofNat (sixBits _), value, whole]

/-- A text that is written as UTF-8 is read back. -/
theorem decodeUtf8_encodeUtf8 (text : List Char) :
    decodeUtf8 (encodeUtf8 text) = text := by
  induction text with
  | nil => simp [encodeUtf8, decodeUtf8]
  | cons c text ih =>
      have split : encodeUtf8 (c :: text) =
          String.utf8EncodeChar c ++ encodeUtf8 text := rfl
      rw [split, decodeUtf8_utf8EncodeChar, ih]

end ClusterLog.Text
