import ClusterLog.Proofs.Calendar.Spelling

/-!
# Letters in written dates

The only letters of a written date are the three of a month's name, and none of
them stands at its end.
-/

namespace ClusterLog.Calendar

open ClusterLog.Text

variable {field : Field} {format : Format} {text : List Char} {value : Nat}
variable {values : List (Field × Nat)}

theorem Field.Spells.countP_letters (spells : field.Spells text value) :
    text.countP isAsciiLetter ≤ 3 * [field].count .monthName := by
  cases spells with
  | digits _ digits =>
      have none : text.countP isAsciiLetter = 0 :=
        List.countP_eq_zero.mpr fun c inside => by
          simp [isAsciiLetter_of_digit (digits c inside)]
      omega
  | filled digit =>
      have none : isAsciiLetter ' ' = false := rfl
      simp [none, isAsciiLetter_of_digit digit]
  | name known same =>
      have letters := monthNames_letters _ (List.mem_of_getElem? known)
      rw [← same, List.length_map] at letters
      have atMost := List.countP_le_length (p := isAsciiLetter) (l := text)
      simp
      omega

/-- Without letters in the format itself, a date has three letters at most for
each name of a month. -/
theorem Format.Spells.countP_letters
    (plain : ∀ c, .literal c ∈ format → isAsciiLetter c = false)
    (spells : format.Spells text values) :
    text.countP isAsciiLetter ≤ 3 * format.fields.count .monthName := by
  induction spells with
  | nil => exact Nat.zero_le _
  | literal _ ih =>
      have others := ih fun c member => plain c (List.mem_cons_of_mem _ member)
      rw [List.countP_cons_of_neg (by simp [plain _ List.mem_cons_self])]
      exact others
  | @gap _ blanks _ _ _ blank _ ih =>
      have others := ih fun c member => plain c (List.mem_cons_of_mem _ member)
      have none : blanks.countP isAsciiLetter = 0 :=
        List.countP_eq_zero.mpr fun c inside => by
          simp [isAsciiLetter_of_blank (blank c inside)]
      rw [List.countP_append, none, Nat.zero_add]
      exact others
  | @field field items _ _ _ _ spells _ ih =>
      have others := ih fun c member => plain c (List.mem_cons_of_mem _ member)
      have here := spells.countP_letters
      have split : Format.fields (.field field :: items) =
          [field] ++ Format.fields items := rfl
      rw [List.countP_append, split, List.count_append]
      omega

theorem Field.Spells.isDigit_getLast (numeric : field ≠ .monthName)
    (spells : field.Spells text value) :
    ∃ c, text.getLast? = some c ∧ isDigit c = true := by
  have nonempty := spells.ne_nil
  cases spells with
  | digits _ digits =>
      exact ⟨text.getLast nonempty, List.getLast?_eq_some_getLast nonempty,
        digits _ (List.getLast_mem nonempty)⟩
  | filled digit => exact ⟨_, rfl, digit⟩
  | name => exact absurd rfl numeric

/-- A date whose last field is a number ends with a digit. -/
theorem Format.Spells.isDigit_getLast (numeric : field ≠ .monthName)
    (spells : format.Spells text values)
    (ends : format.getLast? = some (.field field)) :
    ∃ c, text.getLast? = some c ∧ isDigit c = true := by
  induction spells with
  | nil => cases ends
  | @literal _ items _ _ _ ih =>
      cases items with
      | nil => cases ends
      | cons item items =>
          rcases ih (List.getLast?_cons_cons ▸ ends) with ⟨c, last, digit⟩
          exact ⟨c, by simp [List.getLast?_cons, last], digit⟩
  | @gap items _ _ _ _ _ _ ih =>
      cases items with
      | nil => cases ends
      | cons item items =>
          rcases ih (List.getLast?_cons_cons ▸ ends) with ⟨c, last, digit⟩
          exact ⟨c, by simp [List.getLast?_append, last], digit⟩
  | @field _ items _ _ _ _ spells others ih =>
      cases items with
      | nil =>
          cases others
          cases ends
          rw [List.append_nil]
          exact spells.isDigit_getLast numeric
      | cons item items =>
          rcases ih (List.getLast?_cons_cons ▸ ends) with ⟨c, last, digit⟩
          exact ⟨c, by simp [List.getLast?_append, last], digit⟩

/-- A date in front of a severity name has three letters at most, and ends with a
digit. -/
theorem letters_of_parse?_keywordFormat {time : DateTime}
    (reads : keywordFormat.parse? text = some time) :
    text.countP isAsciiLetter ≤ 3 ∧
      ∃ c, text.getLast? = some c ∧ isDigit c = true := by
  rcases Format.expresses_of_parse? Format.isComplete_keywordFormat reads with
    ⟨values, spells, -⟩
  have plain : ∀ c, .literal c ∈ keywordFormat → isAsciiLetter c = false := by
    intro c member
    obtain rfl : c = ':' := by simpa [keywordFormat] using member
    rfl
  have numeric : Field.second ≠ .monthName := by decide
  exact ⟨spells.countP_letters plain, spells.isDigit_getLast numeric rfl⟩

end ClusterLog.Calendar
