import ClusterLog.Proofs.Ingest.Readings

/-!
# Date ranges of nodes

The date range of a node covers the files that have dates.  A file with a
document has both a first and a last date, and only such a file has a last one,
so a node has a range exactly if it has a document; the ranges of a cluster
are those of the hosts of such nodes.
-/

namespace ClusterLog

open Calendar

/-! ## Nodes -/

theorem extremeDate_isSome_iff (choose : DateTime → DateTime → DateTime)
    {dates : List DateTime} :
    (extremeDate choose dates).isSome = true ↔ dates ≠ [] := by
  cases dates <;> simp [extremeDate]

namespace NodeReading

variable {tree : FileTree} {config : IndexConfig} {reading : NodeReading}

/-- The dates of the first dated entries of a node's files. -/
def firstDates (reading : NodeReading) : List DateTime :=
  reading.files.filterMap fun file =>
    (file.entries.find? Entry.isDated).bind Entry.date?

/-- The dates of the last documents of a node's files. -/
def lastDates (config : IndexConfig) (reading : NodeReading) : List DateTime :=
  reading.files.filterMap fun file =>
    (config.documentsOf reading.summary.host file.entries).getLast?.bind
      (·.entry.date?)

/-- The date range of a node, if it has one. -/
def range? (config : IndexConfig) (reading : NodeReading) : Option DateRange :=
  match extremeDate DateTime.earlier reading.firstDates,
    extremeDate DateTime.later (reading.lastDates config) with
  | some first, some last => some ⟨first, last⟩
  | _, _ => none

/-- A date that each write of a node has. -/
theorem IsSound.dates (sound : reading.IsSound tree config)
    {date : WriteStatistics → Except Failure (Option DateTime)}
    {dateOf : List Entry → Option DateTime}
    (reads : ∀ entries,
      date (config.statisticsOf reading.summary.host entries) =
        .ok (dateOf entries)) :
    reading.summary.files.mapM (fun file => date file.2) =
      .ok (reading.files.map fun file => dateOf file.entries) := by
  rw [sound.files, List.mapM_map]
  exact mapM_eq_ok_of_forall fun file _ => reads file.entries

theorem IsSound.minDate (sound : reading.IsSound tree config) :
    reading.summary.minDate =
      .ok (extremeDate DateTime.earlier reading.firstDates) := by
  have dates := sound.dates fun _ => IndexConfig.minDate_statisticsOf
  rw [NodeSummary.minDate, dates, firstDates]
  simp only [bind, Except.bind, List.filterMap_map]
  rfl

theorem IsSound.maxDate (sound : reading.IsSound tree config) :
    reading.summary.maxDate =
      .ok (extremeDate DateTime.later (reading.lastDates config)) := by
  have dates := sound.dates fun _ => IndexConfig.maxDate_statisticsOf
  rw [NodeSummary.maxDate, dates, lastDates]
  simp only [bind, Except.bind, List.filterMap_map]
  rfl

/-- The range of a node is always defined. -/
theorem IsSound.range? (sound : reading.IsSound tree config) :
    reading.summary.range? = .ok (reading.range? config) := by
  rw [NodeSummary.range?, sound.minDate, sound.maxDate, NodeReading.range?]
  cases extremeDate DateTime.earlier reading.firstDates <;>
    cases extremeDate DateTime.later (reading.lastDates config) <;> rfl

theorem documents_ne_nil_iff :
    reading.documents config ≠ [] ↔
      ∃ file ∈ reading.files,
        config.documentsOf reading.summary.host file.entries ≠ [] := by
  rw [documents, ne_eq, List.flatMap_eq_nil_iff]
  simp only [Classical.not_forall, exists_prop]

theorem lastDates_ne_nil_iff :
    reading.lastDates config ≠ [] ↔ reading.documents config ≠ [] := by
  rw [documents_ne_nil_iff, lastDates, ne_eq, List.filterMap_eq_nil_iff]
  simp only [Classical.not_forall, exists_prop]
  apply exists_congr
  intro file
  apply and_congr_right
  intro member
  rw [← IndexConfig.lastDate_isSome_iff, Option.isSome_iff_ne_none]

theorem firstDates_ne_nil (nonempty : reading.documents config ≠ []) :
    reading.firstDates ≠ [] := by
  rcases documents_ne_nil_iff.mp nonempty with ⟨file, member, written⟩
  have dated := IndexConfig.firstDate_isSome_of_documents written
  rcases Option.isSome_iff_exists.mp dated with ⟨date, found⟩
  have inside : date ∈ reading.firstDates :=
    List.mem_filterMap.mpr ⟨file, member, found⟩
  exact List.ne_nil_of_mem inside

/-- A node has a range exactly if one of its entries is a document. -/
theorem range?_isSome_iff :
    (reading.range? config).isSome = true ↔ reading.documents config ≠ [] := by
  rw [← lastDates_ne_nil_iff]
  constructor
  · intro ranged empty
    rw [range?, empty] at ranged
    split at ranged
    · rename_i last
      cases last
    · cases ranged
  · intro nonempty
    have first := (extremeDate_isSome_iff DateTime.earlier).mpr
      (firstDates_ne_nil (lastDates_ne_nil_iff.mp nonempty))
    have last := (extremeDate_isSome_iff DateTime.later).mpr nonempty
    rcases Option.isSome_iff_exists.mp first with ⟨lower, hasFirst⟩
    rcases Option.isSome_iff_exists.mp last with ⟨upper, hasLast⟩
    rw [range?, hasFirst, hasLast]
    rfl

end NodeReading

/-! ## Clusters -/

namespace LogRanges

/-- Adding a range adds its host, unless the host is there. -/
theorem mem_keys_extend {ranges : LogRanges} {host other : String}
    {range : DateRange} :
    other ∈ (LogRanges.extend ranges host range).map Prod.fst ↔
      other ∈ ranges.map Prod.fst ∨ other = host := by
  unfold extend
  split
  · rename_i known
    have keys : (ranges.map fun entry =>
        (entry.1, if entry.1 == host then range.cover entry.2
          else entry.2)).map Prod.fst = ranges.map Prod.fst := by
      rw [List.map_map]
      rfl
    rw [keys]
    constructor
    · exact Or.inl
    · rintro (inside | rfl)
      · exact inside
      · rcases List.any_eq_true.mp known with ⟨one, member, same⟩
        exact List.mem_map.mpr ⟨one, member, by simpa using same⟩
  · simp

end LogRanges

namespace NodeReading

/-- The ranges after one more node. -/
def extendRanges (config : IndexConfig) (ranges : LogRanges)
    (reading : NodeReading) : LogRanges :=
  match reading.range? config with
  | some range => LogRanges.extend ranges reading.summary.host range
  | none => ranges

variable {tree : FileTree} {config : IndexConfig}

/-- The ranges of a cluster are always defined. -/
theorem logRangesFrom_eq {readings : List NodeReading}
    (sound : ∀ reading ∈ readings, reading.IsSound tree config)
    (ranges : LogRanges) :
    logRangesFrom ranges (readings.map NodeReading.summary) =
      .ok (readings.foldl (extendRanges config) ranges) := by
  induction readings generalizing ranges with
  | nil => rfl
  | cons reading readings ih =>
      have here := (sound reading (by simp)).range?
      have others := ih fun other member => sound other (by simp [member])
      rw [List.map_cons, logRangesFrom, here, List.foldl_cons, extendRanges]
      simp only [bind, Except.bind]
      cases reading.range? config with
      | none => exact others _
      | some range => exact others _

theorem mem_keys_foldl {readings : List NodeReading} {ranges : LogRanges}
    {host : String} :
    host ∈ (readings.foldl (extendRanges config) ranges).map Prod.fst ↔
      host ∈ ranges.map Prod.fst ∨
        ∃ reading ∈ readings,
          reading.documents config ≠ [] ∧ reading.summary.host = host := by
  induction readings generalizing ranges with
  | nil => simp
  | cons reading readings ih =>
      have here : host ∈ (extendRanges config ranges reading).map Prod.fst ↔
          host ∈ ranges.map Prod.fst ∨
            reading.documents config ≠ [] ∧ reading.summary.host = host := by
        rw [← range?_isSome_iff, extendRanges]
        cases reading.range? config with
        | none => simp
        | some range => simp [LogRanges.mem_keys_extend, eq_comm]
      rw [List.foldl_cons, ih, here]
      simp only [List.mem_cons, or_and_right, exists_or, exists_eq_left,
        or_assoc]

end NodeReading

end ClusterLog
