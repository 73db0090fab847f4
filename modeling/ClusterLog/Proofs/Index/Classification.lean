import ClusterLog.Ingest.Node
import ClusterLog.Proofs.Calendar.Spelling
import ClusterLog.Proofs.Index.Statistics
import ClusterLog.Proofs.Text.Find

/-!
# Classification of entries

Every entry of a write falls into exactly one class.  Which entries become
documents is said here by what is written in them, and not by the order in which
a write looks at it: the timestamp has a readable date, and the message holds
some text and none of the texts that mark noise.  The counters of a write add
up, and the writer is handed these documents and nothing else.
-/

namespace ClusterLog

open Calendar Text

/-! ## Entries that become documents -/

/-- The first field of a date begins its text, and only a day begins with a
blank. -/
theorem Calendar.Format.head_of_parse? {field : Field} {items : Format}
    {text : List Char} {time : DateTime} (noDay : field ≠ .day)
    (reads : Format.parse? (.field field :: items) text = some time) :
    ∃ c ∈ text.head?, isBlank c = false := by
  rcases Option.bind_eq_some_iff.mp reads with ⟨⟨values, left⟩, read, -⟩
  rcases Format.spells_of_read read with ⟨written, rfl, spells⟩
  cases spells with
  | field spells others =>
      rcases List.exists_cons_of_ne_nil spells.ne_nil with ⟨c, behind, rfl⟩
      exact ⟨c, rfl, spells.isBlank_head noDay c rfl⟩

namespace Entry

/-- An entry with a readable date has a timestamp. -/
theorem isValid_of_date? {entry : Entry}
    (readable : entry.date?.isSome = true) :
    entry.isValid = true := by
  rcases Option.isSome_iff_exists.mp readable with ⟨time, reads⟩
  rcases Format.head_of_parse? (by decide) reads with ⟨c, first, solid⟩
  rw [isValid, Bool.not_eq_true', isBlankText, List.all_eq_false]
  exact ⟨c, List.mem_of_mem_head? first, by simp [solid]⟩

/-- The entry becomes a document: its date can be read, and its message holds
some text, but no text that marks noise. -/
def IsIndexed (markers : List String) (entry : Entry) : Prop :=
  entry.date?.isSome = true ∧ entry.messageText ≠ "" ∧
    ∀ marker ∈ markers, ¬ marker.toList <:+: entry.messageText.toList

instance (markers : List String) : DecidablePred (IsIndexed markers) :=
  fun _ => inferInstanceAs (Decidable (_ ∧ _ ∧ _))

/-- What the index stores of an entry of a host. -/
def document (host : String) (entry : Entry) : Document where
  host := host
  level := entry.level
  message := entry.messageText
  timestamp := entry.timestamp

end Entry

namespace IndexConfig

variable {config : IndexConfig} {host : String} {entry : Entry}

theorem isNoise_eq_false_iff {message : String} :
    config.isNoise message = false ↔
      ∀ marker ∈ config.noiseMarkers,
        ¬ marker.toList <:+: message.toList := by
  simp only [isNoise, List.any_eq_false, occursIn_iff]

/-- The class of an entry makes it a document exactly if it is one. -/
theorem document?_classify (config : IndexConfig) (host : String)
    (entry : Entry) :
    (config.classify host entry).document? =
      if entry.IsIndexed config.noiseMarkers then some (entry.document host)
      else none := by
  simp only [Entry.IsIndexed, ← isNoise_eq_false_iff]
  cases readable : entry.date?.isSome with
  | false =>
      have unread : entry.date?.isNone = true := by
        simpa using readable
      cases valid : entry.isValid <;>
        simp [classify, valid, unread, EntryClass.document?]
  | true =>
      have valid := Entry.isValid_of_date? readable
      have read : entry.date?.isNone = false := by
        simpa using readable
      cases noise : config.isNoise entry.messageText <;>
        by_cases empty : entry.messageText = "" <;>
        simp [classify, valid, read, noise, empty, EntryClass.document?,
          Entry.document]

/-- The documents of a write are the entries that are to be indexed. -/
theorem documentsOf_eq (config : IndexConfig) (host : String)
    (entries : List Entry) :
    config.documentsOf host entries =
      (entries.filter (·.IsIndexed config.noiseMarkers)).map
        (Entry.document host) := by
  rw [documentsOf, ← List.filterMap_eq_map, List.filterMap_filter]
  apply congrArg (entries.filterMap ·)
  funext entry
  simp [document?_classify]

/-! ## Counters -/

variable {statistics : WriteStatistics}

/-- Each entry is counted once: as a document, as noise, or as skipped. -/
theorem total_recordEntry :
    (config.recordEntry host statistics entry).written +
        (config.recordEntry host statistics entry).noise +
        (config.recordEntry host statistics entry).skipped =
      statistics.written + statistics.noise + statistics.skipped + 1 := by
  rw [recordEntry]
  cases config.classify host entry <;> simp only [WriteStatistics.record] <;>
    omega

theorem total_foldl (entries : List Entry) (statistics : WriteStatistics) :
    (entries.foldl (config.recordEntry host) statistics).written +
        (entries.foldl (config.recordEntry host) statistics).noise +
        (entries.foldl (config.recordEntry host) statistics).skipped =
      statistics.written + statistics.noise + statistics.skipped +
        entries.length := by
  induction entries generalizing statistics with
  | nil => rfl
  | cons entry entries ih =>
      rw [List.foldl_cons, ih, total_recordEntry, List.length_cons]
      omega

/-- An entry without a timestamp is skipped before anything else is looked
at. -/
theorem classify_eq_skipped_iff :
    config.classify host entry = .skipped ↔ entry.isValid = false := by
  unfold classify
  cases entry.isValid <;> cases entry.date?.isNone <;>
    cases (entry.messageText.isEmpty || config.isNoise entry.messageText) <;>
    simp

theorem valid_recordEntry :
    (config.recordEntry host statistics entry).valid =
      statistics.valid + if entry.isValid then 1 else 0 := by
  rw [recordEntry]
  cases valid : entry.isValid with
  | false =>
      rw [classify_eq_skipped_iff.mpr valid]
      rfl
  | true =>
      cases kind : config.classify host entry with
      | skipped =>
          rw [classify_eq_skipped_iff.mp kind] at valid
          cases valid
      | unreadable | noise | document => rfl

theorem valid_foldl (entries : List Entry) (statistics : WriteStatistics) :
    (entries.foldl (config.recordEntry host) statistics).valid =
      statistics.valid + entries.countP Entry.isValid := by
  induction entries generalizing statistics with
  | nil => rfl
  | cons entry entries ih =>
      rw [List.foldl_cons, ih, valid_recordEntry, List.countP_cons]
      omega

end IndexConfig

/-! ## Writes -/

namespace Writing

/-- Entries hand their documents to the writer, one after the other, and do
nothing else to it. -/
theorem foldl_writeEntry_eq (host : String) (entries : List Entry)
    (state : Writing × WriteStatistics) :
    (entries.foldl (writeEntry host) state).1 =
      (state.1.config.documentsOf host entries).foldl add state.1 := by
  induction entries generalizing state with
  | nil => rfl
  | cons entry entries ih =>
      have step : (writeEntry host state entry).1 =
          (state.1.config.classify host entry).document?.toList.foldl add
            state.1 := by
        rw [writeEntry]
        dsimp only
        cases state.1.config.classify host entry <;> rfl
      rw [List.foldl_cons, ih, writeEntry_config, step,
        IndexConfig.documentsOf_cons, List.foldl_append]

/-- Write the entries of a host while they arrive, portion by portion, and store
the batch behind the last one. -/
def writeArriving (writing : Writing) (host : String)
    (portions : List (List Entry)) : Writing × WriteStatistics :=
  let (next, statistics) :=
    portions.foldl (fun state portion => portion.foldl (writeEntry host) state)
      (writing, {})
  (next.flush, statistics)

/-- The portions in which entries arrive make no difference. -/
theorem writeArriving_eq (writing : Writing) (host : String)
    (portions : List (List Entry)) :
    writing.writeArriving host portions =
      writing.write host portions.flatten := by
  rw [writeArriving, write, List.foldl_flatten]

/--
A write classifies each entry exactly once.  The writer is handed the entries
that are to be indexed, in order and under the given host, and has stored them
behind all that it held before; the entries are the documents, the noise and
the skipped ones together; the entries with a timestamp are counted as valid;
the first timestamp is that of the first entry with a readable date, and the
last one that of the last document.  Entries that arrive in portions, and those
of an ingestion, are written in the same way.
-/
theorem write_classifies (writing : Writing) (host : String)
    (entries : List Entry) :
    let next := (writing.write host entries).1
    let statistics := (writing.write host entries).2
    let documents :=
      (entries.filter (·.IsIndexed writing.config.noiseMarkers)).map
        (Entry.document host)
    next = (documents.foldl add writing).flush ∧
    next.store.documents = some (writing.held ++ documents) ∧
    next.pending = [] ∧
    statistics.written = documents.length ∧
    statistics.written + statistics.noise + statistics.skipped =
      entries.length ∧
    statistics.valid =
      entries.countP (fun entry => !isBlankText entry.timestamp.toList) ∧
    statistics.minTimestamp =
      (entries.find? (·.date?.isSome)).map (·.timestamp) ∧
    statistics.maxTimestamp = documents.getLast?.map (·.timestamp) ∧
    (statistics.maxTimestamp = none ↔ statistics.written = 0) ∧
    (∀ portions, writing.writeArriving host portions =
      writing.write host portions.flatten) ∧
    (Ingestion.write host entries).run writing = (.ok statistics, next) := by
  intro next statistics documents
  have accepted : writing.config.documentsOf host entries = documents :=
    IndexConfig.documentsOf_eq _ _ _
  have counted : statistics = writing.config.statisticsOf host entries :=
    write_statistics _ _ _
  have dated : Entry.isDated = (·.date?.isSome) := by
    funext entry
    cases readable : entry.date?.isSome with
    | false => simp [Entry.isDated, readable]
    | true => simp [Entry.isDated, readable, Entry.isValid_of_date? readable]
  have written : statistics.written = documents.length := by
    rw [counted, IndexConfig.written_statisticsOf, accepted]
  have last : statistics.maxTimestamp =
      documents.getLast?.map (·.timestamp) := by
    rw [counted, IndexConfig.maxTimestamp_statisticsOf, accepted]
  refine ⟨?_, ?_, rfl, written, ?_, ?_, ?_, last, ?_,
    writing.writeArriving_eq host, rfl⟩
  · rw [← accepted]
    exact congrArg flush (foldl_writeEntry_eq host entries (writing, {}))
  · rw [← accepted]
    exact congrArg some (held_foldl_writeEntry host entries (writing, {}))
  · rw [counted, IndexConfig.statisticsOf, IndexConfig.total_foldl]
    exact Nat.zero_add _
  · rw [counted, IndexConfig.statisticsOf, IndexConfig.valid_foldl]
    exact Nat.zero_add _
  · rw [counted, IndexConfig.minTimestamp_statisticsOf, dated]
  · rw [last, written, Option.map_eq_none_iff, List.getLast?_eq_none_iff,
      List.length_eq_zero_iff]

end Writing

end ClusterLog
