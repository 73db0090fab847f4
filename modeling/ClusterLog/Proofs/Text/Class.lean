import ClusterLog.Text.Class

/-!
# Laws of character classes

ASCII letters are word characters, ASCII digits are digits, and neither of them
are blanks.  No word character of any script is a blank.
-/

namespace ClusterLog.Text

/-- What holds of the characters of a list is decided along the list, not by
going through all characters there are. -/
instance decidableForallChars (holds : Char → Prop) [DecidablePred holds]
    (chars : List Char) : Decidable (∀ c ∈ chars, holds c) :=
  List.decidableBAll holds chars

theorem isBlank_of_asciiDigit {c : Char}
    (digit : isAsciiDigit c = true) :
    isBlank c = false := by
  rcases toNat_of_asciiDigit digit with ⟨lower, upper⟩
  exact isBlank_of_code lower (by omega)

theorem isBlank_of_asciiLetter {c : Char}
    (letter : isAsciiLetter c = true) :
    isBlank c = false := by
  rcases toNat_of_asciiLetter letter with ⟨lower, upper⟩
  exact isBlank_of_code (by omega) upper

theorem isWord_of_asciiLetter {c : Char}
    (letter : isAsciiLetter c = true) :
    isWord c = true := by
  have ascii : c.toNat < 128 := by
    have code := toNat_of_asciiLetter letter
    omega
  simp [isWord, ascii, letter]

theorem blankRanges_apart : ∀ blank ∈ blankRanges, ∀ word ∈ wordRanges,
    word.2 < blank.1 ∨ blank.2 < word.1 := by
  decide +kernel

theorem isBlank_of_word {c : Char} (word : isWord c = true) :
    isBlank c = false := by
  by_cases ascii : c.toNat < 128
  · simp only [isWord, ascii, ↓reduceIte, Bool.or_eq_true] at word
    rcases word with (letter | digit) | underscore
    · exact isBlank_of_asciiLetter letter
    · exact isBlank_of_asciiDigit digit
    · rw [eq_of_beq underscore]
      rfl
  · simp only [isWord, ascii, ↓reduceIte, inRanges, List.any_eq_true] at word
    rcases word with ⟨range, member, within⟩
    simp only [isBlank, ascii, ↓reduceIte, inRanges, List.any_eq_false]
    intro blank blankMember inside
    rw [Bool.and_eq_true, decide_eq_true_eq, decide_eq_true_eq] at within inside
    have apart := blankRanges_apart blank blankMember range member
    omega

theorem isWord_of_blank {c : Char} (blank : isBlank c = true) :
    isWord c = false := by
  rw [Bool.eq_false_iff]
  intro word
  rw [isBlank_of_word word] at blank
  cases blank

theorem digitValue?_of_asciiDigit {c : Char}
    (digit : isAsciiDigit c = true) :
    digitValue? c = some (c.toNat - 48) := by
  rcases toNat_of_asciiDigit digit with ⟨lower, upper⟩
  have ascii : c.toNat < 128 := by omega
  simp [digitValue?, ascii, lower, upper]

theorem isDigit_of_asciiDigit {c : Char}
    (digit : isAsciiDigit c = true) :
    isDigit c = true := by
  simp [isDigit, digitValue?_of_asciiDigit digit]

theorem isAsciiDigit_of_isDigit {c : Char} (ascii : c.toNat < 128)
    (digit : isDigit c = true) :
    isAsciiDigit c = true := by
  rw [isDigit, digitValue?, if_pos ascii] at digit
  split at digit
  · rename_i within
    simpa [isAsciiDigit, Char.le_def, UInt32.le_iff_toNat_le] using within
  · cases digit

/-- A digit of any script is no letter from `A` to `z`. -/
theorem isAsciiLetter_of_digit {c : Char} (digit : isDigit c = true) :
    isAsciiLetter c = false := by
  rw [Bool.eq_false_iff]
  intro letter
  rcases toNat_of_asciiLetter letter with ⟨lower, upper⟩
  have ascii : c.toNat < 128 := by omega
  rw [isDigit, digitValue?, if_pos ascii, if_neg (by simp; omega)] at digit
  cases digit

theorem isAsciiLetter_of_blank {c : Char} (blank : isBlank c = true) :
    isAsciiLetter c = false := by
  rw [Bool.eq_false_iff]
  intro letter
  rw [isBlank_of_asciiLetter letter] at blank
  cases blank

end ClusterLog.Text
