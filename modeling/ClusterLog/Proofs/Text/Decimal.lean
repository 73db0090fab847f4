import ClusterLog.Proofs.Text.Class
import ClusterLog.Text.Integer
import Mathlib.Tactic.IntervalCases

/-!
# Laws of written numbers

The decimal digits of a number are ASCII digits, and reading them back gives
the number.
-/

namespace ClusterLog.Text

theorem isAsciiDigit_of_mem_decimal {value : Nat} {c : Char}
    (inside : c ∈ decimal value) :
    isAsciiDigit c = true := by
  have digit : c.isDigit = true :=
    Nat.isDigit_of_mem_toDigits (by decide) (by decide) inside
  simpa [Char.isDigit, isAsciiDigit, Char.le_def] using digit

theorem isAsciiDigit_of_mem_paddedDecimal {width value : Nat} {c : Char}
    (inside : c ∈ paddedDecimal width value) :
    isAsciiDigit c = true := by
  rcases List.mem_append.mp inside with padding | digit
  · rw [List.eq_of_mem_replicate padding]
    rfl
  · exact isAsciiDigit_of_mem_decimal digit

theorem digitsValue_append_singleton (digits : List Nat) (digit : Nat) :
    digitsValue (digits ++ [digit]) = digitsValue digits * 10 + digit := by
  simp [digitsValue]

/-- Reading the digits of a number gives the number. -/
theorem digitsValue_decimal (value : Nat) :
    digitsValue ((decimal value).filterMap digitValue?) = value := by
  induction value using Nat.strongRecOn with
  | ind value ih =>
      have last (digit : Nat) (small : digit < 10) :
          digitValue? digit.digitChar = some digit := by
        interval_cases digit <;> rfl
      by_cases small : value < 10
      · rw [decimal, Nat.toDigits_of_lt_base small]
        simp [last value small, digitsValue]
      · have split : decimal value =
            decimal (value / 10) ++ [(value % 10).digitChar] :=
          Nat.toDigits_of_base_le (by decide) (by omega)
        have smaller : value / 10 < value := by omega
        have digit := last (value % 10) (Nat.mod_lt value (by decide))
        rw [split, List.filterMap_append]
        simp only [List.filterMap_cons, digit, List.filterMap_nil]
        rw [digitsValue_append_singleton, ih (value / 10) smaller]
        omega

theorem readDigits?_of_asciiDigits {digits : List Char} {afterDigit : Bool}
    (all : ∀ c ∈ digits, isAsciiDigit c = true)
    (begun : afterDigit = true ∨ digits ≠ []) :
    readDigits? afterDigit digits = some (digits.filterMap digitValue?) := by
  induction digits generalizing afterDigit with
  | nil =>
      have after : afterDigit = true := begun.resolve_right fun other => other rfl
      rw [after]
      rfl
  | cons c digits ih =>
      have digit := all c List.mem_cons_self
      have noUnderscore : c ≠ '_' := by
        rintro rfl
        cases digit
      have others := @ih true
        (fun d inside => all d (List.mem_cons_of_mem c inside)) (Or.inl rfl)
      rw [readDigits?.eq_3 _ _ _ noUnderscore, digitValue?_of_asciiDigit digit,
        others, List.filterMap_cons_some (digitValue?_of_asciiDigit digit)]
      rfl

theorem length_filterMap_digitValue? {digits : List Char}
    (all : ∀ c ∈ digits, isAsciiDigit c = true) :
    (digits.filterMap digitValue?).length = digits.length := by
  rw [List.filterMap_length_eq_length]
  intro c inside
  rw [digitValue?_of_asciiDigit (all c inside)]
  rfl

/-- Digits are read as a number if they are not too many. -/
theorem readNatural?_of_asciiDigits {digits : List Char}
    (nonempty : digits ≠ []) (all : ∀ c ∈ digits, isAsciiDigit c = true) :
    readNatural? digits =
      if digits.length ≤ maxDigits then
        some (digitsValue (digits.filterMap digitValue?))
      else
        none := by
  rw [readNatural?, readDigits?_of_asciiDigits all (Or.inr nonempty),
    ← length_filterMap_digitValue? all]
  rfl

/-- A number that is short enough is read back from its digits. -/
theorem readNatural?_decimal {value : Nat}
    (short : (decimal value).length ≤ maxDigits) :
    readNatural? (decimal value) = some value := by
  have nonempty : decimal value ≠ [] := by simp [decimal]
  rw [readNatural?_of_asciiDigits nonempty
      fun _ => isAsciiDigit_of_mem_decimal,
    if_pos short, digitsValue_decimal]

/-- Numbers from 1000 to 9999 have four digits. -/
theorem length_decimal_four {value : Nat}
    (lower : 1000 ≤ value) (upper : value ≤ 9999) :
    (decimal value).length = 4 := by
  have atMost : (decimal value).length ≤ 4 :=
    (Nat.length_toDigits_le_iff (by decide) (by decide)).mpr (by omega)
  have moreThan : ¬ (decimal value).length ≤ 3 := by
    intro short
    have small :=
      (Nat.length_toDigits_le_iff (b := 10) (by decide) (by decide)).mp short
    omega
  omega

end ClusterLog.Text
