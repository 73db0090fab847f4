import ClusterLog.Entry.Record
import ClusterLog.Proofs.Calendar.Stamp

/-!
# Timestamps of entries

An entry that is read from a text has no timestamp, or the timestamp of a point
in time.  Whatever its timestamp is read as has a year of four digits.
-/

namespace ClusterLog

open Calendar Text

namespace Entry

/-- The timestamp is missing or written for a point in time. -/
def HasStamp (entry : Entry) : Prop :=
  entry.timestamp = "" ∨ ∃ time : DateTime, entry.timestamp = time.stamp

theorem hasStamp_invalid : invalid.HasStamp :=
  Or.inl rfl

theorem hasStamp_ofFields (format : Format) (level date message : List Char) :
    (ofFields format level date message).HasStamp := by
  unfold ofFields
  split
  · exact Or.inr ⟨_, rfl⟩
  · exact hasStamp_invalid

theorem hasStamp_of_ofLayout? {grammar : Layout.Grammar} {text : List Char}
    {entry : Entry} (reads : ofLayout? grammar text = some entry) :
    entry.HasStamp := by
  rcases Option.map_eq_some_iff.mp reads with ⟨captures, -, rfl⟩
  dsimp only
  split
  · exact hasStamp_invalid
  · exact hasStamp_ofFields _ _ _ _

theorem hasStamp_of_ofKeyword? {text : List Char} {entry : Entry}
    (reads : ofKeyword? text = some entry) :
    entry.HasStamp := by
  rcases Option.map_eq_some_iff.mp reads with ⟨⟨date, severity, message⟩, -, rfl⟩
  dsimp only
  split
  · exact hasStamp_invalid
  · exact hasStamp_ofFields _ _ _ _

/-- Every text is read as an entry with a proper timestamp or none. -/
theorem hasStamp_ofText (grammar : Layout.Grammar) (text : List Char) :
    (ofText grammar text).HasStamp := by
  unfold ofText
  split
  · exact hasStamp_invalid
  · cases byLayout : ofLayout? grammar text with
    | some entry => exact hasStamp_of_ofLayout? byLayout
    | none =>
        cases byKeyword : ofKeyword? text with
        | some entry => exact hasStamp_of_ofKeyword? byKeyword
        | none => exact hasStamp_invalid

/-- The date of an entry is modern. -/
theorem HasStamp.isModern {entry : Entry} (stamped : entry.HasStamp)
    {time : DateTime} (read : entry.date? = some time) :
    time.IsModern := by
  rcases stamped with empty | ⟨written, same⟩
  · have none : ofStamp? "" = none := by decide +kernel
    rw [date?, empty, none] at read
    cases read
  · rw [date?, same] at read
    exact DateTime.isModern_of_ofStamp? written.beginsPositive_stamp read

end Entry

theorem hasStamp_of_mem_entriesOfLines {grammar : Layout.Grammar}
    {lines : List (List Char)} {entry : Entry}
    (member : entry ∈ entriesOfLines grammar lines) :
    entry.HasStamp := by
  rcases List.mem_map.mp member with ⟨text, -, rfl⟩
  exact Entry.hasStamp_ofText grammar text

end ClusterLog
