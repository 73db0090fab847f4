import ClusterLog.Proofs.Index.Hits
import ClusterLog.Proofs.Index.Statistics
import ClusterLog.Proofs.Text.Find
import Mathlib.Data.List.Forall2

/-!
# Histories of indexes

Where documents enter an index through writes of entries only, each of them has
a date that can be read and a message without the texts that mark noise for the
session that wrote it.  Searches of such an index can therefore look at every
report window.
-/

namespace ClusterLog

open Text

/-! ## Documents of writes -/

/-- A document that a write with given settings may keep. -/
structure Document.IsKeptBy (document : Document) (config : IndexConfig) :
    Prop where
  dated : document.entry.date?.isSome = true
  nonempty : document.message ≠ ""
  clean : ∀ marker ∈ config.noiseMarkers,
    ¬ marker.toList <:+: document.message.toList

/-- The writer itself decides which documents a call hands to it. -/
def WriterCall.IsFiltered : WriterCall → Prop
  | .add _ => False
  | .flush | .write _ _ | .brokenWrite _ _ => True

theorem IndexConfig.isKeptBy_of_classify {config : IndexConfig} {host : String}
    {entry : Entry} {document : Document}
    (kind : config.classify host entry = .document document) :
    document.IsKeptBy config := by
  rw [classify] at kind
  split at kind
  · cases kind
  · split at kind
    · cases kind
    · split at kind
      · cases kind
      · rename_i readable quiet
        cases kind
        rw [Bool.or_eq_true, not_or] at quiet
        rcases quiet with ⟨nonempty, quiet⟩
        refine ⟨?_, ?_, ?_⟩
        · have read : entry.date?.isSome = true := by
            simpa [Option.isSome_iff_ne_none] using readable
          exact read
        · simpa using nonempty
        · intro marker member occurs
          apply quiet
          exact List.any_eq_true.mpr ⟨marker, member, occursIn_iff.mpr occurs⟩

/-- What filtered calls hand to a writer may be kept by it. -/
theorem WriterCall.isKeptBy_of_accepted {config : IndexConfig}
    {calls : List WriterCall} (filtered : ∀ call ∈ calls, call.IsFiltered)
    {document : Document} (member : document ∈ accepted config calls) :
    document.IsKeptBy config := by
  rcases List.mem_flatMap.mp member with ⟨call, inside, handed⟩
  have written : ∀ host entries, document ∈ config.documentsOf host entries →
      document.IsKeptBy config := by
    intro host entries stands
    rcases IndexConfig.mem_documentsOf.mp stands with ⟨entry, -, kind⟩
    exact IndexConfig.isKeptBy_of_classify kind
  cases call with
  | add document => cases filtered _ inside
  | flush => cases handed
  | write host entries => exact written host entries handed
  | brokenWrite host entries => exact written host entries handed

/-! ## Sessions -/

/-- A session of a writer in which documents enter through writes only. -/
structure Session where
  config : IndexConfig
  fresh : Bool
  calls : List WriterCall
  filtered : ∀ call ∈ calls, call.IsFiltered
  /-- Whether the writer is closed in the end or broken off. -/
  completes : Bool

namespace Session

variable (session : Session) (store : Store)

/-- What a session makes of an index. -/
def run : Store :=
  let writing := WriterCall.runAll
    (Writing.start session.config store session.fresh) session.calls
  if session.completes then writing.close else writing.abort

/-- A session leaves the documents that were there, unless it starts afresh, and
behind them documents that its settings keep. -/
theorem documentList_run :
    ∃ written,
      (session.run store).documentList =
        (if session.fresh then [] else store.documentList) ++ written ∧
      ∀ document ∈ written, document.IsKeptBy session.config := by
  have begun := Writing.holds_start session.config store session.fresh
  rcases begun.runAll session.calls with ⟨committed, -, holds⟩
  have kept : ∀ document ∈
      WriterCall.accepted session.config session.calls,
        document.IsKeptBy session.config :=
    fun _ => WriterCall.isKeptBy_of_accepted session.filtered
  rw [run]
  split
  · exact ⟨_, holds.flush.documentList, kept⟩
  · -- What was not committed when the session was broken off is lost.
    refine ⟨committed, holds.documentList, fun document member => ?_⟩
    have complete : committed ++ _ =
        WriterCall.accepted session.config session.calls := holds.complete
    apply kept
    rw [← complete]
    exact List.mem_append_left _ member

/-- The settings with which each document was written, after a session. -/
def settings (earlier : List IndexConfig) : List IndexConfig :=
  let kept := if session.fresh then [] else earlier
  kept ++ List.replicate ((session.run store).count - kept.length)
    session.config

end Session

/-! ## Histories -/

/-- An index after sessions in which documents enter through writes only, with
the settings of the session that wrote each document. -/
inductive Store.History : Store → List IndexConfig → Prop
  | new : History {} []
  | session {store : Store} {settings : List IndexConfig}
      (earlier : History store settings) (session : Session) :
      History (session.run store) (session.settings store settings)
  | saveRanges {store : Store} {settings : List IndexConfig}
      (earlier : History store settings) (ranges : LogRanges) :
      History (store.saveRanges ranges) settings

namespace Store.History

variable {store : Store} {settings : List IndexConfig}

theorem forall₂_replicate {config : IndexConfig} {documents : List Document}
    (kept : ∀ document ∈ documents, document.IsKeptBy config) :
    List.Forall₂ Document.IsKeptBy documents
      (List.replicate documents.length config) := by
  induction documents with
  | nil => exact .nil
  | cons document documents ih =>
      have others := ih fun other member =>
        kept other (List.mem_cons_of_mem _ member)
      exact .cons (kept document List.mem_cons_self) others

/-- A session keeps what is known of the documents. -/
theorem forall₂_session {session : Session}
    (kept : List.Forall₂ Document.IsKeptBy store.documentList settings) :
    List.Forall₂ Document.IsKeptBy (session.run store).documentList
      (session.settings store settings) := by
  rcases session.documentList_run store with ⟨written, leaves, new⟩
  have front : List.Forall₂ Document.IsKeptBy
      (if session.fresh then [] else store.documentList)
      (if session.fresh then [] else settings) := by
    cases session.fresh with
    | false => exact kept
    | true => exact .nil
  have length : (session.run store).count -
      (if session.fresh then [] else settings).length = written.length := by
    rw [count, leaves, List.length_append, front.length_eq]
    omega
  rw [Session.settings, length, leaves]
  exact List.rel_append front (forall₂_replicate new)

/-- Every stored document may be kept by the session that wrote it. -/
theorem isKeptBy (history : store.History settings) :
    List.Forall₂ Document.IsKeptBy store.documentList settings := by
  induction history with
  | new => exact .nil
  | session earlier session ih => exact forall₂_session ih
  | saveRanges earlier ranges ih => exact ih

theorem dated (history : store.History settings) {document : Document}
    (member : document ∈ store.documentList) :
    document.entry.date?.isSome = true := by
  rcases List.forall₂_iff_get.mp history.isKeptBy with ⟨length, kept⟩
  rcases List.get_of_mem member with ⟨place, rfl⟩
  exact (kept place place.2 (length ▸ place.2)).dated

/--
Each stored document has a readable date and a message that is not empty and
without the texts that mark noise for the session that wrote it.  So no search
fails for the dates of documents, whatever the window is, and the dates of the
statistics of a write can be read.
-/
theorem searchable (history : store.History settings) :
    List.Forall₂ Document.IsKeptBy store.documentList settings ∧
    (∀ (window : ReportWindow) (search : Search) (taken : List Document),
      store.fetch search = .ok taken →
      ∃ kept,
        insideWindow window taken = .ok kept ∧
        store.search window search = .ok (kept.map (·.entry))) ∧
    ∀ (writing : Writing) (host : String) (entries : List Entry),
      ∃ first last,
        (writing.write host entries).2.minDate = .ok first ∧
        (writing.write host entries).2.maxDate = .ok last := by
  refine ⟨history.isKeptBy, ?_, ?_⟩
  · intro window search taken takes
    have shows := insideWindow_of_dates window fun document member =>
      history.dated (mem_of_fetch takes member)
    exact ⟨_, shows, search_of_fetch takes shows⟩
  · intro writing host entries
    rw [Writing.write_statistics]
    exact ⟨_, _, IndexConfig.minDate_statisticsOf,
      IndexConfig.maxDate_statisticsOf⟩

end Store.History

/-! ## A history of two sessions -/

namespace TwoSessions

/-- A session that drops one entry as noise and one without a timestamp. -/
def first : Session where
  config := { noiseMarkers := ["DROP"] }
  fresh := true
  calls := [.write "n1" [
    ⟨"INFO", some "hello", "20200101000000", none⟩,
    ⟨"INFO", some "DROP it", "20200101000001", none⟩,
    ⟨"INFO", some "hello again", "", none⟩]]
  filtered := by simp [WriterCall.IsFiltered]
  completes := true

/-- A session with other settings that is broken off. -/
def second : Session where
  config := { batchSize := 1, noiseMarkers := [] }
  fresh := false
  calls := [.brokenWrite "n2" [⟨"WARN", some "DROP it", "20200102000000", none⟩]]
  filtered := by simp [WriterCall.IsFiltered]
  completes := false

def store : Store := second.run (first.run {})

theorem documentList_store :
    store.documentList = [
      ⟨"n1", "INFO", "hello", "20200101000000"⟩,
      ⟨"n2", "WARN", "DROP it", "20200102000000"⟩] := by
  decide +kernel

theorem history : store.History [first.config, second.config] := by
  have settings : second.settings (first.run {}) (first.settings {} []) =
      [first.config, second.config] := by
    decide +kernel
  rw [← settings]
  exact .session (.session .new first) second

end TwoSessions

theorem searchable_twoSessions :
    TwoSessions.store.History
        [TwoSessions.first.config, TwoSessions.second.config] ∧
    List.Forall₂ Document.IsKeptBy
      [⟨"n1", "INFO", "hello", "20200101000000"⟩,
        ⟨"n2", "WARN", "DROP it", "20200102000000"⟩]
      [TwoSessions.first.config, TwoSessions.second.config] ∧
    ∀ window, ∃ entries,
      TwoSessions.store.search window { query := "hello" } = .ok entries := by
  rcases Store.History.searchable TwoSessions.history with ⟨kept, shows, -⟩
  rw [TwoSessions.documentList_store] at kept
  refine ⟨TwoSessions.history, kept, fun window => ?_⟩
  have takes : TwoSessions.store.fetch { query := "hello" } =
      .ok [⟨"n1", "INFO", "hello", "20200101000000"⟩] :=
    eq_ok_of_toOption (by decide +kernel)
  rcases shows window _ _ takes with ⟨documents, -, found⟩
  exact ⟨_, found⟩

end ClusterLog
