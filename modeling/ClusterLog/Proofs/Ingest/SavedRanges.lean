import ClusterLog.Proofs.Entry.Timestamps
import ClusterLog.Proofs.Ingest.Ranges

/-!
# Saved date ranges

The date ranges that an ingestion computes lie in years of four digits, since
all of their dates were read from timestamps of entries.  Such ranges are
saved as timestamps and loaded again without a change.
-/

namespace ClusterLog

open Calendar

/-! ## Modern ranges -/

/-- Both ends of a range are in a year of four digits. -/
structure DateRange.IsModern (range : DateRange) : Prop where
  first : range.first.IsModern
  last : range.last.IsModern

/-- All ranges are in years of four digits. -/
def LogRanges.AreModern (ranges : LogRanges) : Prop :=
  ∀ one ∈ ranges, one.2.IsModern

theorem DateTime.earlier_eq_or (first second : DateTime) :
    DateTime.earlier first second = first ∨
      DateTime.earlier first second = second := by
  unfold DateTime.earlier
  split
  · exact Or.inr rfl
  · exact Or.inl rfl

theorem DateTime.later_eq_or (first second : DateTime) :
    DateTime.later first second = first ∨
      DateTime.later first second = second := by
  unfold DateTime.later
  split
  · exact Or.inr rfl
  · exact Or.inl rfl

theorem DateRange.IsModern.cover {left right : DateRange}
    (modernLeft : left.IsModern) (modernRight : right.IsModern) :
    (left.cover right).IsModern where
  first := by
    rcases DateTime.earlier_eq_or left.first right.first with same | same
    · rw [DateRange.cover, same]
      exact modernLeft.first
    · rw [DateRange.cover, same]
      exact modernRight.first
  last := by
    rcases DateTime.later_eq_or left.last right.last with same | same
    · rw [DateRange.cover, same]
      exact modernLeft.last
    · rw [DateRange.cover, same]
      exact modernRight.last

theorem LogRanges.AreModern.extend {ranges : LogRanges}
    (modern : ranges.AreModern) {host : String} {range : DateRange}
    (modernRange : range.IsModern) :
    LogRanges.AreModern (LogRanges.extend ranges host range) := by
  intro one member
  unfold LogRanges.extend at member
  split at member
  · rcases List.mem_map.mp member with ⟨⟨known, before⟩, inside, rfl⟩
    have here : before.IsModern := modern _ inside
    dsimp only
    split
    · exact modernRange.cover here
    · exact here
  · rcases List.mem_append.mp member with inside | last
    · exact modern one inside
    · rw [List.mem_singleton.mp last]
      exact modernRange

/-! ## Ranges of nodes -/

/-- An extreme date is one of the dates. -/
theorem mem_of_extremeDate {choose : DateTime → DateTime → DateTime}
    (chooses : ∀ first second,
      choose first second = first ∨ choose first second = second)
    {dates : List DateTime} {date : DateTime}
    (extreme : extremeDate choose dates = some date) :
    date ∈ dates := by
  have fold : ∀ (others : List DateTime) (first : DateTime),
      others.foldl choose first ∈ first :: others := by
    intro others
    induction others with
    | nil =>
        intro first
        exact List.mem_singleton_self first
    | cons second others ih =>
        intro first
        rw [List.foldl_cons]
        rcases chooses first second with same | same
        · rw [same]
          rcases List.mem_cons.mp (ih first) with here | behind
          · rw [here]
            exact List.mem_cons_self
          · exact List.mem_cons_of_mem _ (List.mem_cons_of_mem _ behind)
        · rw [same]
          exact List.mem_cons_of_mem _ (ih second)
  cases dates with
  | nil => cases extreme
  | cons first others =>
      cases extreme
      exact fold others first

/-- The entries of a file that was read have proper timestamps. -/
theorem FileReading.IsRead.hasStamp {tree : FileTree} {file : FileReading}
    (read : file.IsRead tree) {entry : Entry} (member : entry ∈ file.entries) :
    entry.HasStamp := by
  rcases read with ⟨grammar, found⟩
  unfold FileTree.entries at found
  split at found
  · rcases bind_eq_ok.mp found with ⟨lines, -, same⟩
    rw [← pure_eq_ok.mp same] at member
    exact hasStamp_of_mem_entriesOfLines member
  · cases found

namespace NodeReading

variable {tree : FileTree} {config : IndexConfig} {reading : NodeReading}

/-- The range of a node is modern. -/
theorem IsSound.range_isModern (sound : reading.IsSound tree config)
    {range : DateRange} (found : reading.range? config = some range) :
    range.IsModern := by
  unfold NodeReading.range? at found
  split at found
  · rename_i first last hasFirst hasLast
    cases found
    constructor
    · have member := mem_of_extremeDate DateTime.earlier_eq_or hasFirst
      rcases List.mem_filterMap.mp member with ⟨file, inside, dated⟩
      rcases Option.bind_eq_some_iff.mp dated with ⟨entry, finds, date⟩
      exact ((sound.read file inside).hasStamp
        (List.mem_of_find?_eq_some finds)).isModern date
    · have member := mem_of_extremeDate DateTime.later_eq_or hasLast
      rcases List.mem_filterMap.mp member with ⟨file, inside, dated⟩
      rcases Option.bind_eq_some_iff.mp dated with ⟨document, final, date⟩
      rcases IndexConfig.exists_entry_of_mem_documentsOf
        (List.mem_of_getLast? final) with ⟨entry, written, -, rfl⟩
      exact ((sound.read file inside).hasStamp written).isModern date
  · cases found

/-- The ranges of a cluster are modern. -/
theorem foldl_areModern {readings : List NodeReading}
    (sound : ∀ reading ∈ readings, reading.IsSound tree config)
    {ranges : LogRanges} (modern : ranges.AreModern) :
    LogRanges.AreModern (readings.foldl (extendRanges config) ranges) := by
  induction readings generalizing ranges with
  | nil => exact modern
  | cons reading readings ih =>
      have others : ∀ other ∈ readings, other.IsSound tree config :=
        fun other member => sound other (List.mem_cons_of_mem _ member)
      apply ih others
      unfold extendRanges
      cases found : reading.range? config with
      | none => exact modern
      | some range =>
          exact modern.extend ((sound reading (by simp)).range_isModern found)

end NodeReading

/-! ## Saving and loading -/

/-- Modern ranges are loaded as they were saved. -/
theorem Store.loadRanges_saveRanges (store : Store) {ranges : LogRanges}
    (modern : ranges.AreModern) :
    (store.saveRanges ranges).loadRanges = .ok ranges := by
  have read : ∀ one ∈ ranges,
      SavedRange.read ⟨one.1, one.2.first.stamp, one.2.last.stamp⟩ =
        .ok one := by
    intro one member
    have here := modern one member
    simp only [SavedRange.read, DateTime.parseTimestamp_stamp here.first,
      DateTime.parseTimestamp_stamp here.last]
    rfl
  have all := mapM_eq_ok_of_forall read
  rw [List.map_id'] at all
  simp only [saveRanges, loadRanges, Option.getD_some, List.mapM_map]
  exact all

end ClusterLog
