import ClusterLog.Proofs.Text.Decimal
import ClusterLog.Proofs.Text.Order
import Mathlib.Data.List.Induction
import Mathlib.Tactic.Ring

/-!
# Numerals of one width

Texts of decimal digits with the same width are ordered like the numbers that
they denote.
-/

namespace ClusterLog.Text

/-- The number that a run of digits denotes. -/
def numeral (digits : List Char) : Nat :=
  digitsValue (digits.filterMap digitValue?)

/-- All characters are ASCII digits. -/
def AreDigits (digits : List Char) : Prop :=
  ∀ c ∈ digits, isAsciiDigit c = true

instance (digits : List Char) : Decidable (AreDigits digits) :=
  decidableForallChars _ digits

theorem areDigits_paddedDecimal (width value : Nat) :
    AreDigits (paddedDecimal width value) :=
  fun _ => isAsciiDigit_of_mem_paddedDecimal

theorem AreDigits.append {left right : List Char} (digitsLeft : AreDigits left)
    (digitsRight : AreDigits right) :
    AreDigits (left ++ right) := by
  intro c member
  rcases List.mem_append.mp member with inLeft | inRight
  · exact digitsLeft c inLeft
  · exact digitsRight c inRight

theorem AreDigits.tail {c : Char} {digits : List Char}
    (all : AreDigits (c :: digits)) :
    AreDigits digits :=
  fun d member => all d (List.mem_cons_of_mem c member)

theorem digitsValue_append (left right : List Nat) :
    digitsValue (left ++ right) =
      digitsValue left * 10 ^ right.length + digitsValue right := by
  induction right using List.reverseRecOn with
  | nil => simp [digitsValue]
  | append_singleton right digit ih =>
      rw [← List.append_assoc, digitsValue_append_singleton, ih,
        digitsValue_append_singleton, List.length_append]
      simp only [List.length_singleton, pow_succ]
      ring

theorem numeral_append {left right : List Char} (digits : AreDigits right) :
    numeral (left ++ right) =
      numeral left * 10 ^ right.length + numeral right := by
  rw [numeral, List.filterMap_append, digitsValue_append,
    length_filterMap_digitValue? digits]
  rfl

theorem numeral_cons {c : Char} {digits : List Char}
    (all : AreDigits (c :: digits)) :
    numeral (c :: digits) =
      (c.toNat - 48) * 10 ^ digits.length + numeral digits := by
  have value := digitValue?_of_asciiDigit (all c (by simp))
  have first : numeral [c] = c.toNat - 48 := by
    simp [numeral, value, digitsValue]
  rw [← List.singleton_append, numeral_append all.tail, first]

theorem numeral_lt {digits : List Char} (all : AreDigits digits) :
    numeral digits < 10 ^ digits.length := by
  induction digits with
  | nil => decide
  | cons c digits ih =>
      have digit : c.toNat - 48 ≤ 9 := by
        have range := toNat_of_asciiDigit (all c (by simp))
        omega
      have front := Nat.mul_le_mul_right (10 ^ digits.length) digit
      have others := ih all.tail
      rw [numeral_cons all, List.length_cons, pow_succ]
      omega

/-- Leading zeros do not count. -/
theorem numeral_paddedDecimal (width value : Nat) :
    numeral (paddedDecimal width value) = value := by
  have zeros (count : Nat) : numeral (List.replicate count '0') = 0 := by
    induction count with
    | zero => rfl
    | succ count ih =>
        have all : AreDigits ('0' :: List.replicate count '0') := by
          intro c member
          rw [← List.replicate_succ] at member
          rw [List.eq_of_mem_replicate member]
          rfl
        rw [List.replicate_succ, numeral_cons all, ih]
        simp
  have digits : AreDigits (decimal value) :=
    fun _ => isAsciiDigit_of_mem_decimal
  rw [paddedDecimal, numeral_append digits, zeros, Nat.zero_mul, Nat.zero_add]
  exact digitsValue_decimal value

theorem length_paddedDecimal {width value : Nat} (positive : 0 < width)
    (fits : value < 10 ^ width) :
    (paddedDecimal width value).length = width := by
  have atMost : (decimal value).length ≤ width :=
    (Nat.length_toDigits_le_iff (by decide) positive).mpr fits
  rw [paddedDecimal, List.length_append, List.length_replicate]
  omega

/-- Texts of digits with one width are ordered by their numbers. -/
theorem precedes_iff_numeral_le {left right : List Char}
    (digitsLeft : AreDigits left) (digitsRight : AreDigits right)
    (width : left.length = right.length) :
    precedes left right = true ↔ numeral left ≤ numeral right := by
  induction left generalizing right with
  | nil =>
      cases right with
      | nil => simp [precedes]
      | cons d right => cases width
  | cons c left ih =>
      cases right with
      | nil => cases width
      | cons d right =>
          have width : left.length = right.length := Nat.succ.inj width
          have others := ih digitsLeft.tail digitsRight.tail width
          have small := numeral_lt digitsLeft.tail
          have smallRight := numeral_lt digitsRight.tail
          have digit := toNat_of_asciiDigit (digitsLeft c (by simp))
          have digitRight := toNat_of_asciiDigit (digitsRight d (by simp))
          rw [precedes_cons_iff, others, numeral_cons digitsLeft,
            numeral_cons digitsRight, width]
          rw [width] at small
          rcases Nat.lt_trichotomy c.toNat d.toNat with less | same | more
          · have front : c.toNat - 48 + 1 ≤ d.toNat - 48 := by omega
            have scaled := Nat.mul_le_mul_right (10 ^ right.length) front
            rw [Nat.add_mul] at scaled
            simp only [less, true_or, true_iff]
            omega
          · rw [same]
            simp
          · have front : d.toNat - 48 + 1 ≤ c.toNat - 48 := by omega
            have scaled := Nat.mul_le_mul_right (10 ^ right.length) front
            rw [Nat.add_mul] at scaled
            constructor
            · intro before
              omega
            · intro atMost
              omega

/-- A text of digits is determined by its width and its number. -/
theorem eq_of_numeral_eq {left right : List Char} (digitsLeft : AreDigits left)
    (digitsRight : AreDigits right) (width : left.length = right.length)
    (same : numeral left = numeral right) :
    left = right := by
  apply precedes_antisymm
  · exact (precedes_iff_numeral_le digitsLeft digitsRight width).mpr
      (Nat.le_of_eq same)
  · exact (precedes_iff_numeral_le digitsRight digitsLeft width.symm).mpr
      (Nat.le_of_eq same.symm)

/-- A text of digits is its number, filled up with zeros to its width. -/
theorem paddedDecimal_numeral {digits : List Char} (nonempty : digits ≠ [])
    (all : AreDigits digits) :
    paddedDecimal digits.length (numeral digits) = digits := by
  have width : (paddedDecimal digits.length (numeral digits)).length =
      digits.length :=
    length_paddedDecimal (List.length_pos_iff.mpr nonempty) (numeral_lt all)
  exact eq_of_numeral_eq (areDigits_paddedDecimal _ _) all width
    (numeral_paddedDecimal _ _)

end ClusterLog.Text
