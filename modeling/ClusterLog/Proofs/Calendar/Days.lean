import ClusterLog.Proofs.Calendar.Order
import Mathlib.Data.List.Sort

/-!
# Written days

The texts `yyyy-MM-dd` of days are ordered like the days themselves: each number
has its own width, and the separators are at the same places in all texts.
-/

namespace ClusterLog.Calendar

open ClusterLog.Text

namespace Date

variable {date other : Date}

/-- The beginning of a day. -/
def midnight (date : Date) : DateTime :=
  ⟨date, 0, 0, 0, DateTime.midnight_valid⟩

theorem midnight_le_iff :
    date.midnight ≤ other.midnight ↔ date.number ≤ other.number := by
  simp only [DateTime.le_iff, DateTime.seconds, DateTime.secondOfDay, midnight]
  omega

/-- Days are as many as their numbers. -/
theorem eq_of_number_eq (same : date.number = other.number) :
    date = other := by
  have midnights : date.midnight = other.midnight :=
    DateTime.eq_of_seconds_eq (Nat.le_antisymm
      (midnight_le_iff.mpr (Nat.le_of_eq same))
      (midnight_le_iff.mpr (Nat.le_of_eq same.symm)))
  exact congrArg DateTime.date midnights

/-- Days in chronological order are known from which days they are. -/
theorem eq_of_increasing {days others : List Date}
    (sorted : days.Pairwise (·.number < ·.number))
    (sortedToo : others.Pairwise (·.number < ·.number))
    (same : ∀ date, date ∈ days ↔ date ∈ others) :
    days = others :=
  List.Pairwise.eq_of_mem_iff (r := Order.Preimage number (· < ·)) sorted
    sortedToo same

/-! ## Digits -/

/-- The digits `yyyyMM` of the month of a day. -/
def sixDigits (date : Date) : List Char :=
  paddedDecimal 4 date.year ++ twoDigits date.month

/-- The digits `yyyyMMdd` of a day. -/
def eightDigits (date : Date) : List Char :=
  date.sixDigits ++ twoDigits date.day

theorem length_year (date : Date) : (paddedDecimal 4 date.year).length = 4 :=
  length_paddedDecimal (by decide) (Nat.lt_succ_of_le date.valid.2.1)

theorem length_month (date : Date) : (twoDigits date.month).length = 2 :=
  DateTime.length_twoDigits date.midnight.month_lt

theorem length_day (date : Date) : (twoDigits date.day).length = 2 :=
  DateTime.length_twoDigits date.midnight.day_lt

theorem length_sixDigits (date : Date) : date.sixDigits.length = 6 := by
  rw [sixDigits, List.length_append, length_year, length_month]

theorem length_eightDigits (date : Date) : date.eightDigits.length = 8 := by
  rw [eightDigits, List.length_append, length_sixDigits, length_day]

/-- Of two days the earlier one has the smaller digits. -/
theorem precedes_eightDigits (date other : Date) :
    precedes date.eightDigits other.eightDigits = true ↔
      date.number ≤ other.number := by
  -- The clocks of the beginnings of all days are the same.
  have digits (day : Date) : day.midnight.fourteenDigits =
      day.eightDigits ++ (twoDigits 0 ++ twoDigits 0 ++ twoDigits 0) := by
    simp [DateTime.fourteenDigits, midnight, eightDigits, sixDigits]
  have width := date.length_eightDigits.trans other.length_eightDigits.symm
  rw [← precedes_append_right width, ← digits, ← digits,
    DateTime.precedes_fourteenDigits, midnight_le_iff]

/-! ## Texts -/

/-- The characters `yyyy-MM-dd` of a day. -/
def textChars (date : Date) : List Char :=
  paddedDecimal 4 date.year ++
    '-' :: (twoDigits date.month ++ '-' :: twoDigits date.day)

/-- The text `yyyy-MM-dd` of a day. -/
def text (date : Date) : String :=
  String.ofList date.textChars

/-- Of two days the earlier one comes first as a text. -/
theorem precedes_textChars (date other : Date) :
    precedes date.textChars other.textChars = true ↔
      date.number ≤ other.number := by
  have years := date.length_year.trans other.length_year.symm
  have months := date.length_sixDigits.trans other.length_sixDigits.symm
  calc
    precedes date.textChars other.textChars = true ↔
        precedes (date.sixDigits ++ '-' :: twoDigits date.day)
          (other.sixDigits ++ '-' :: twoDigits other.day) = true := by
      rw [textChars, textChars, precedes_insert years, sixDigits, sixDigits,
        List.append_assoc, List.append_assoc]
    _ ↔ precedes date.eightDigits other.eightDigits = true :=
      precedes_insert months ..
    _ ↔ date.number ≤ other.number := precedes_eightDigits date other

/-- Days are as many as their texts. -/
theorem text_injective : Function.Injective text := by
  intro date other same
  have chars : date.textChars = other.textChars :=
    String.ofList_injective same
  have atMost {first second : Date}
      (equal : first.textChars = second.textChars) :
      first.number ≤ second.number := by
    rw [← precedes_textChars, equal]
    exact precedes_refl _
  exact eq_of_number_eq (Nat.le_antisymm (atMost chars) (atMost chars.symm))

end Date

/-- Points in time in a year of four digits have the text of their day. -/
theorem DateTime.dayText_eq {time : DateTime}
    (modern : 1000 ≤ time.date.year) :
    time.dayText = time.date.text := by
  have year := paddedDecimal_year modern time.date.valid.2.1
  simp [dayText, Date.text, Date.textChars, year]

end ClusterLog.Calendar
