import ClusterLog.Proofs.Computation
import ClusterLog.Proofs.Index.Batching

/-!
# Statistics of writes

The statistics that a write returns follow from the classes of its entries
alone: the number of documents is the number of those handed to the index, the
first timestamp is that of the first entry with a readable date, whether it is
noise or not, and the last one is that of the last document.
-/

namespace ClusterLog

open Calendar Text

/-! ## Classes -/

/-- The entry has a timestamp, and its date can be read. -/
def Entry.isDated (entry : Entry) : Bool :=
  entry.isValid && entry.date?.isSome

namespace IndexConfig

variable {config : IndexConfig} {host : String} {entry : Entry}

/-- What is known of an entry by its class. -/
theorem classify_spec (config : IndexConfig) (host : String) (entry : Entry) :
    match config.classify host entry with
    | .skipped | .unreadable => entry.isDated = false
    | .noise => entry.isDated = true
    | .document document =>
      entry.isDated = true ∧
        document = ⟨host, entry.level, entry.messageText, entry.timestamp⟩ := by
  unfold classify Entry.isDated
  cases entry.isValid <;> cases entry.date? <;>
    cases (entry.messageText.isEmpty || config.isNoise entry.messageText) <;>
    simp

theorem mem_documentsOf {entries : List Entry} {document : Document} :
    document ∈ config.documentsOf host entries ↔
      ∃ entry ∈ entries, config.classify host entry = .document document := by
  rw [documentsOf, List.mem_filterMap]
  apply exists_congr
  intro entry
  apply and_congr_right
  intro member
  cases config.classify host entry <;> simp [EntryClass.document?]

/-- A document stands for an entry with a readable date. -/
theorem exists_entry_of_mem_documentsOf {entries : List Entry}
    {document : Document} (member : document ∈ config.documentsOf host entries) :
    ∃ entry ∈ entries,
      entry.isDated = true ∧
      document = ⟨host, entry.level, entry.messageText, entry.timestamp⟩ := by
  rcases mem_documentsOf.mp member with ⟨entry, inside, kind⟩
  have spec := config.classify_spec host entry
  rw [kind] at spec
  exact ⟨entry, inside, spec⟩

/-! ## Statistics -/

/-- The statistics after one more entry of a host. -/
def recordEntry (config : IndexConfig) (host : String)
    (statistics : WriteStatistics) (entry : Entry) : WriteStatistics :=
  statistics.record entry (config.classify host entry)

/-- The statistics of a write of the entries of a host. -/
def statisticsOf (config : IndexConfig) (host : String)
    (entries : List Entry) : WriteStatistics :=
  entries.foldl (config.recordEntry host) {}

/-- The statistics of a write depend on the texts that mark noise only. -/
theorem statisticsOf_congr {config other : IndexConfig}
    (markers : config.noiseMarkers = other.noiseMarkers) :
    config.statisticsOf = other.statisticsOf := by
  funext host entries
  have step : config.recordEntry host = other.recordEntry host := by
    funext statistics entry
    rw [recordEntry, recordEntry, classify_congr markers]
  rw [statisticsOf, statisticsOf, step]

variable {statistics : WriteStatistics}

theorem minTimestamp_recordEntry :
    (config.recordEntry host statistics entry).minTimestamp =
      statistics.minTimestamp.or
        (if entry.isDated then some entry.timestamp else none) := by
  have spec := config.classify_spec host entry
  rw [recordEntry]
  cases kind : config.classify host entry with
  | skipped | unreadable =>
      rw [kind] at spec
      simp [WriteStatistics.record, spec]
  | noise =>
      rw [kind] at spec
      simp [WriteStatistics.record, spec]
  | document document =>
      rw [kind] at spec
      simp [WriteStatistics.record, spec.1]

theorem minTimestamp_foldl (entries : List Entry)
    (statistics : WriteStatistics) :
    (entries.foldl (config.recordEntry host) statistics).minTimestamp =
      statistics.minTimestamp.or
        ((entries.find? Entry.isDated).map (·.timestamp)) := by
  induction entries generalizing statistics with
  | nil => simp
  | cons entry entries ih =>
      rw [List.foldl_cons, ih, minTimestamp_recordEntry, Option.or_assoc,
        List.find?_cons]
      cases entry.isDated <;> simp

theorem documentsOf_cons (entries : List Entry) :
    config.documentsOf host (entry :: entries) =
      (config.classify host entry).document?.toList ++
        config.documentsOf host entries := by
  rw [documentsOf, documentsOf, List.filterMap_cons]
  cases (config.classify host entry).document? <;> rfl

theorem maxTimestamp_foldl (entries : List Entry)
    (statistics : WriteStatistics) :
    (entries.foldl (config.recordEntry host) statistics).maxTimestamp =
      ((config.documentsOf host entries).getLast?.map (·.timestamp)).or
        statistics.maxTimestamp := by
  induction entries generalizing statistics with
  | nil => rfl
  | cons entry entries ih =>
      have spec := config.classify_spec host entry
      rw [List.foldl_cons, ih, recordEntry, documentsOf_cons]
      cases kind : config.classify host entry with
      | skipped | unreadable | noise => rfl
      | document document =>
          rw [kind] at spec
          rw [spec.2]
          simp only [EntryClass.document?, WriteStatistics.record,
            Option.toList_some, List.singleton_append, List.getLast?_cons]
          cases (config.documentsOf host entries).getLast? <;> rfl

theorem written_foldl (entries : List Entry) (statistics : WriteStatistics) :
    (entries.foldl (config.recordEntry host) statistics).written =
      statistics.written + (config.documentsOf host entries).length := by
  induction entries generalizing statistics with
  | nil => rfl
  | cons entry entries ih =>
      rw [List.foldl_cons, ih, recordEntry, documentsOf_cons,
        List.length_append, ← Nat.add_assoc]
      cases config.classify host entry <;> rfl

variable {entries : List Entry}

theorem minTimestamp_statisticsOf :
    (config.statisticsOf host entries).minTimestamp =
      (entries.find? Entry.isDated).map (·.timestamp) :=
  minTimestamp_foldl entries {}

theorem maxTimestamp_statisticsOf :
    (config.statisticsOf host entries).maxTimestamp =
      (config.documentsOf host entries).getLast?.map (·.timestamp) := by
  rw [statisticsOf, maxTimestamp_foldl, Option.or_none]

/-- A write counts the documents that it hands to the index. -/
theorem written_statisticsOf :
    (config.statisticsOf host entries).written =
      (config.documentsOf host entries).length := by
  rw [statisticsOf, written_foldl, Nat.zero_add]

end IndexConfig

/-- The statistics of a write are those of its entries. -/
theorem Writing.write_statistics (writing : Writing) (host : String)
    (entries : List Entry) :
    (writing.write host entries).2 =
      writing.config.statisticsOf host entries := by
  have step : ∀ (entries : List Entry) (state : Writing × WriteStatistics),
      (entries.foldl (writeEntry host) state).2 =
        entries.foldl (state.1.config.recordEntry host) state.2 := by
    intro entries
    induction entries with
    | nil =>
        intro state
        rfl
    | cons entry entries ih =>
        intro state
        rw [List.foldl_cons, List.foldl_cons, ih, writeEntry_config]
        rfl
  exact step entries (writing, {})

/-! ## Dates -/

/-- The timestamp of a dated entry is read as its date. -/
theorem dateOfTimestamp_of_isDated {entry : Entry}
    (dated : entry.isDated = true) :
    ∃ date, entry.date? = some date ∧
      dateOfTimestamp (some entry.timestamp) = .ok (some date) := by
  rw [Entry.isDated, Bool.and_eq_true] at dated
  rcases dated with ⟨valid, readable⟩
  rcases Option.isSome_iff_exists.mp readable with ⟨date, found⟩
  refine ⟨date, found, ?_⟩
  have nonempty : entry.timestamp.isEmpty = false := by
    rw [Bool.eq_false_iff]
    intro empty
    have none : entry.timestamp = "" := by simpa using empty
    rw [Entry.isValid, none] at valid
    cases valid
  have reads : ofStamp? entry.timestamp = some date := found
  rw [dateOfTimestamp, nonempty, reads]
  rfl

namespace IndexConfig

variable {config : IndexConfig} {host : String} {entries : List Entry}

/-- The timestamp of a document is read as its date. -/
theorem exists_date_of_mem_documentsOf {document : Document}
    (member : document ∈ config.documentsOf host entries) :
    ∃ date, document.entry.date? = some date ∧
      dateOfTimestamp (some document.timestamp) = .ok (some date) := by
  rcases exists_entry_of_mem_documentsOf member with ⟨entry, -, dated, rfl⟩
  exact dateOfTimestamp_of_isDated dated

/-- The date of the first entry whose date can be read. -/
theorem minDate_statisticsOf :
    (config.statisticsOf host entries).minDate =
      .ok ((entries.find? Entry.isDated).bind Entry.date?) := by
  rw [WriteStatistics.minDate, minTimestamp_statisticsOf]
  cases first : entries.find? Entry.isDated with
  | none => rfl
  | some entry =>
      rcases dateOfTimestamp_of_isDated (List.find?_some first) with
        ⟨date, found, reads⟩
      simp [reads, found]

theorem maxDate_statisticsOf :
    (config.statisticsOf host entries).maxDate =
      .ok ((config.documentsOf host entries).getLast?.bind (·.entry.date?)) := by
  rw [WriteStatistics.maxDate, maxTimestamp_statisticsOf]
  cases last : (config.documentsOf host entries).getLast? with
  | none => rfl
  | some document =>
      rcases exists_date_of_mem_documentsOf (List.mem_of_getLast? last) with
        ⟨date, found, reads⟩
      simp [reads, found]

/-- A write has a last date if it writes a document. -/
theorem lastDate_isSome_iff :
    ((config.documentsOf host entries).getLast?.bind (·.entry.date?)).isSome =
        true ↔
      config.documentsOf host entries ≠ [] := by
  constructor
  · intro dated empty
    rw [empty] at dated
    cases dated
  · intro nonempty
    have last := List.getLast?_eq_some_getLast nonempty
    rcases exists_date_of_mem_documentsOf (List.getLast_mem nonempty) with
      ⟨date, found, -⟩
    rw [last, Option.bind_some, found]
    rfl

/-- A write that writes a document has a first date. -/
theorem firstDate_isSome_of_documents
    (nonempty : config.documentsOf host entries ≠ []) :
    ((entries.find? Entry.isDated).bind Entry.date?).isSome = true := by
  rcases exists_entry_of_mem_documentsOf (List.getLast_mem nonempty) with
    ⟨entry, member, dated, -⟩
  have found : (entries.find? Entry.isDated).isSome = true :=
    List.find?_isSome.mpr ⟨entry, member, dated⟩
  rcases Option.isSome_iff_exists.mp found with ⟨first, finds⟩
  rcases dateOfTimestamp_of_isDated (List.find?_some finds) with ⟨date, read, -⟩
  rw [finds, Option.bind_some, read]
  rfl

end IndexConfig

end ClusterLog
