import ClusterLog.Proofs.Calendar.Order
import ClusterLog.Proofs.Calendar.Spelling
import ClusterLog.Window

/-!
# Timestamps of modern years

A timestamp of a year before 1000 is shorter than fourteen digits, and is
sometimes read as another date.  A timestamp begins with the first digit of a
year, though, which is not zero, so what it is read as has a year of four
digits, and the timestamp of such a date is read back as itself.
-/

namespace ClusterLog.Calendar

open ClusterLog.Text

namespace DateTime

/-- The year has four digits. -/
def IsModern (time : DateTime) : Prop :=
  1000 ≤ time.date.year

theorem IsModern.mono {time other : DateTime} (modern : time.IsModern)
    (atMost : time ≤ other) :
    other.IsModern := by
  unfold IsModern at modern ⊢
  by_contra ancient
  have less : other.date.number < time.date.number :=
    Date.number_lt_of_year (by omega)
  have inDay := other.secondOfDay_lt
  rw [le_iff, seconds, seconds] at atMost
  omega

/-! ## Reading back -/

theorem toList_stamp {time : DateTime} (modern : time.IsModern) :
    time.stamp.toList = time.fourteenDigits := by
  rw [stamp, String.toList_ofList, stampChars_eq_fourteenDigits modern]

theorem looksLikeStamp_fourteenDigits (time : DateTime) :
    looksLikeStamp time.fourteenDigits = true := by
  have length := time.length_fourteenDigits
  have digits : time.fourteenDigits.all isDigit = true := by
    rw [List.all_eq_true]
    intro c member
    exact isDigit_of_asciiDigit (time.areDigits_fourteenDigits c member)
  simp [looksLikeStamp, length, digits]

/-- Fourteen digits are read as what they stand for. -/
theorem parseTimestamp_of_fourteenDigits {time : DateTime} {text : String}
    (written : text.toList = time.fourteenDigits) :
    parseTimestamp text = .ok time := by
  rw [parseTimestamp, written, if_pos time.looksLikeStamp_fourteenDigits,
    ofStamp?_fourteenDigits written]

/-- The timestamp of a modern year is read as what it stands for. -/
theorem parseTimestamp_stamp {time : DateTime} (modern : time.IsModern) :
    parseTimestamp time.stamp = .ok time :=
  parseTimestamp_of_fourteenDigits (toList_stamp modern)

/-! ## Years of timestamps -/

/-- The text begins with a digit that is not zero. -/
def BeginsPositive (text : List Char) : Prop :=
  ∃ c rest digit, text = c :: rest ∧ digitValue? c = some digit ∧ 0 < digit

theorem BeginsPositive.append {front : List Char} (positive : BeginsPositive front)
    (rest : List Char) :
    BeginsPositive (front ++ rest) := by
  rcases positive with ⟨c, others, digit, rfl, value, nonzero⟩
  exact ⟨c, others ++ rest, digit, rfl, value, nonzero⟩

theorem beginsPositive_decimal {value : Nat} (positive : 0 < value) :
    BeginsPositive (decimal value) := by
  induction value using Nat.strongRecOn with
  | ind value ih =>
      by_cases small : value < 10
      · have digit : digitValue? value.digitChar = some value := by
          interval_cases value <;> rfl
        rw [decimal, Nat.toDigits_of_lt_base small]
        exact ⟨_, [], value, rfl, digit, positive⟩
      · have split : decimal value =
            decimal (value / 10) ++ [(value % 10).digitChar] :=
          Nat.toDigits_of_base_le (by decide) (by omega)
        rw [split]
        exact (ih (value / 10) (by omega) (by omega)).append _

/-- A timestamp begins with the first digit of its year. -/
theorem beginsPositive_stamp (time : DateTime) :
    BeginsPositive time.stamp.toList := by
  have year := beginsPositive_decimal time.date.valid.1
  rw [stamp, String.toList_ofList, stampChars]
  simp only [List.append_assoc]
  exact year.append _

/-- A year that begins with a digit other than zero is modern. -/
theorem year_of_readings {text rest : List Char} {value : Nat}
    (positive : BeginsPositive text)
    (reads : (value, rest) ∈ Field.year.readings text) :
    1000 ≤ value := by
  rcases positive with ⟨c, behind, digit, rfl, found, nonzero⟩
  rcases Field.spells_of_mem_readings reads with ⟨written, whole, spells⟩
  cases spells with
  | digits width digits =>
      have four : written.length = 4 := List.mem_singleton.mp width
      rcases List.exists_cons_of_length_eq_add_one four with ⟨d, others, rfl⟩
      obtain rfl : c = d := (List.cons.inj whole).1
      have areDigits : ∀ e ∈ others, isDigit e = true :=
        fun e inside => digits e (List.mem_cons_of_mem c inside)
      have length : (others.filterMap digitValue?).length = 3 :=
        (List.filterMap_length_eq_length.mpr areDigits).trans
          (Nat.succ.inj four)
      have single : digitsValue [digit] = digit := by
        simp [digitsValue]
      rw [numeral, List.filterMap_cons_some found, ← List.singleton_append,
        digitsValue_append, single, length]
      omega

/-- What a timestamp is read as, be it one of an early year, is modern. -/
theorem isModern_of_ofStamp? {text : String} {time : DateTime}
    (positive : BeginsPositive text.toList)
    (reads : ofStamp? text = some time) :
    time.IsModern := by
  simp only [ofStamp?, Format.parse?, stampFormat, Format.read,
    Option.bind_eq_bind, Option.bind_eq_some_iff, Prod.exists] at reads
  rcases reads with ⟨fields, left, read, described⟩
  rcases List.exists_of_findSome?_eq_some read with
    ⟨⟨year, rest⟩, member, others⟩
  have modern := year_of_readings positive member
  rcases Option.map_eq_some_iff.mp others with ⟨⟨values, behind⟩, -, same⟩
  cases same
  -- The year is the first field of the timestamp; the others do not matter.
  split at described
  · simp only [dateTimeOfFields?, List.lookup_cons_self, Option.bind_eq_bind,
      Option.bind_some, Option.bind_eq_some_iff] at described
    rcases described with ⟨month, -, day, -, hour, -, minute, -, second, -, of⟩
    rw [IsModern, (parts_of_of? of).1]
    exact modern
  · cases described

end DateTime

end ClusterLog.Calendar
