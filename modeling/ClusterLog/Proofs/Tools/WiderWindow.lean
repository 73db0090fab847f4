import ClusterLog.Proofs.Tools.Search
import ClusterLog.Proofs.Window
import Mathlib.Data.List.Basic

/-!
# Searches through wider windows

A search takes its hits before it looks at the report windows.  The windows of
more days start no later for any host, so a search that covers more days shows
the same entries and more in between, and loses none.
-/

namespace ClusterLog

open Calendar Query

section Wider

variable {window wider : ReportWindow}

/-- A document that is shown through a window is shown through a wider one. -/
theorem isShown_of_isWider (further : wider.IsWider window)
    {document : Document} (shown : isShown window document = true) :
    isShown wider document = true := by
  rw [isShown_iff, isInWindow] at shown ⊢
  have hosts := further.hosts document.host
  cases there : wider.lookup document.host with
  | none => rfl
  | some earlier =>
      rw [there] at hosts
      rcases Option.isSome_iff_exists.mp hosts.symm with ⟨start, here⟩
      have noLater : earlier ≤ start := further.starts there here
      rw [here] at shown
      cases dated : document.entry.date? with
      | none => simp [dated] at shown
      | some date =>
          have inside : start < date := by simpa [dated] using shown
          have insideToo : earlier < date := Nat.lt_of_le_of_lt noLater inside
          simp [insideToo]

/-- A search through a wider window shows what it shows through the narrow one,
in the same order, and possibly more. -/
theorem Store.search_sublist {store : Store} {search : Search}
    {entries others : List Entry} (further : wider.IsWider window)
    (narrow : store.search window search = .ok entries)
    (wide : store.search wider search = .ok others) :
    entries.Sublist others := by
  rcases Store.search_eq_ok narrow with ⟨-, request, asked, rfl⟩
  rcases Store.search_eq_ok wide with ⟨-, same, askedToo, rfl⟩
  obtain rfl : request = same := Except.ok.inj (asked.symm.trans askedToo)
  apply List.Sublist.map
  apply List.monotone_filter_right
  intro document
  exact isShown_of_isWider further

/-- The window of more days in the same workspace goes back further. -/
theorem Workspace.Shows.isWider {workspace : Workspace} {index : String}
    {days more : Int} {store other : Store} (positive : 1 ≤ days)
    (atMost : days ≤ more)
    (showing : workspace.Shows index (some days) store window)
    (showingMore : workspace.Shows index (some more) other wider) :
    store = other ∧ wider.IsWider window := by
  rcases showing.found with ⟨path, confines, contents⟩
  rcases showingMore.found with ⟨same, confinesToo, contentsToo⟩
  obtain rfl : path = same := Except.ok.inj (confines.symm.trans confinesToo)
  obtain rfl : store = other :=
    Option.some.inj (Except.ok.inj (contents.symm.trans contentsToo))
  rcases showing.covers with ⟨ranges, number, loads, asked, covers⟩
  rcases showingMore.covers with ⟨others, larger, loadsToo, askedToo, coversToo⟩
  obtain rfl : ranges = others := Except.ok.inj (loads.symm.trans loadsToo)
  rw [reportDays_some positive] at asked
  rw [reportDays_some (Int.le_trans positive atMost)] at askedToo
  cases asked
  cases askedToo
  exact ⟨rfl, reportWindow_isWider atMost covers coversToo⟩

end Wider

/--
A search that covers more days of an index shows the entries of the search that
covers fewer, in the same order: no host's window starts later, and the index is
the same.
-/
theorem searchEntries_sublist_of_le {before after afterMore : Workspace}
    {index : String} {search : Search} {days more : Int}
    {entries others : List Entry}
    (positive : 1 ≤ days) (atMost : days ≤ more)
    (returns :
      (Work.searchEntries index (some days) search).run before =
        (.ok entries, after))
    (returnsMore :
      (Work.searchEntries index (some more) search).run before =
        (.ok others, afterMore)) :
    entries.Sublist others ∧
    ∃ store window wider,
      before.Shows index (some days) store window ∧
      before.Shows index (some more) store wider ∧
      wider.IsWider window := by
  rcases Work.run_searchEntries_eq_ok returns with
    ⟨-, store, window, showing, narrow⟩
  rcases Work.run_searchEntries_eq_ok returnsMore with
    ⟨-, same, wider, showingMore, wide⟩
  rcases showing.isWider positive atMost showingMore with ⟨rfl, further⟩
  exact ⟨Store.search_sublist further narrow wide,
    store, window, wider, showing, showingMore, further⟩

/-! ## A log whose first entry is later than its last one -/

namespace InvertedRange

/-- Midnight of a day in January 2020. -/
def midnight (day : Nat) (valid : IsDate 2020 1 day) : DateTime :=
  ⟨⟨2020, 1, day, valid⟩, 0, 0, 0, DateTime.midnight_valid⟩

def late : Document :=
  ⟨"a", "INFO", "hello", "20200125000000"⟩

def last : Document :=
  ⟨"b", "INFO", "hello", "20200120000000"⟩

def old : Document :=
  ⟨"b", "INFO", "hello", "20200110000000"⟩

/-- The entries of the first host are out of order. -/
def store : Store where
  documents := some [late, last, old]
  ranges := some [
    ⟨"a", "20200120000000", "20200110000000"⟩,
    ⟨"b", "20200101000000", "20200120000000"⟩]

def workspace : Workspace where
  tree := { nodes := [(["logs.db"], .index store)] }

theorem isDate_fifth : IsDate 2020 1 5 := by
  decide

theorem isDate_nineteenth : IsDate 2020 1 19 := by
  decide

theorem isDate_twentieth : IsDate 2020 1 20 := by
  decide

/-- The windows of one day and of fifteen days: the log that is out of order has
the same in both. -/
def window : ReportWindow :=
  [("a", midnight 20 isDate_twentieth), ("b", midnight 19 isDate_nineteenth)]

def wider : ReportWindow :=
  [("a", midnight 20 isDate_twentieth), ("b", midnight 5 isDate_fifth)]

theorem shows {days : Int} {window : ReportWindow} (positive : 1 ≤ days)
    (covers : reportWindow [
      ("a", ⟨midnight 20 (by decide), midnight 10 (by decide)⟩),
      ("b", ⟨midnight 1 (by decide), midnight 20 (by decide)⟩)] days =
        .ok window) :
    workspace.Shows "logs.db" (some days) store window where
  found := ⟨⟨.root, ["logs.db"]⟩, eq_ok_of_toOption (by decide +kernel), rfl⟩
  settings := ⟨{}, rfl⟩
  covers := ⟨_, days, eq_ok_of_toOption (by decide +kernel),
    reportDays_some positive _, covers⟩

def search : Search where
  query := "hello"

theorem fetch_eq : store.fetch search = .ok [late, last, old] := by
  have found :
      ((requestOf "hello").toOption.map fun request =>
        [late, last, old].map request.finds) = some [true, true, true] := by
    decide +kernel
  rcases exists_ok_of_map_toOption found with ⟨request, asked, same⟩
  have finds : request.finds late = true ∧ request.finds last = true ∧
      request.finds old = true := by
    simpa using same
  have all : (store.documentList.filter fun document =>
      request.finds document &&
        (none : Option String).all (· == document.level)) =
      [late, last, old] := by
    simp [store, Store.documentList, finds]
  have sorted : [late, last, old].Pairwise (isNoEarlier · ·) := by
    decide +kernel
  have nonempty :
      (scopeChars defaultColumn.toList search.query.toList).isEmpty = false := by
    decide +kernel
  have positive : 0 < search.limit := by decide
  have small : search.limit ≤ maxLimit := by decide +kernel
  have hits : store.hits request none = [late, last, old] := by
    rw [Store.hits_of_pairwise, all]
    rw [all]
    exact sorted
  have present : store.documents.isNone = false := rfl
  have taken : store.fetch search = .ok ((store.hits request none).take 100) :=
    Store.fetch_of_request positive small nonempty present asked
  rw [taken, hits]
  rfl

theorem returns :
    (Work.searchEntries "logs.db" (some 1) search).run workspace =
      (.ok [late.entry, last.entry], workspace) := by
  have showing : workspace.Shows "logs.db" (some 1) store window :=
    shows (by decide) (eq_ok_of_toOption (by decide +kernel))
  have inside : insideWindow window [late, last, old] = .ok [late, last] :=
    eq_ok_of_toOption (by decide +kernel)
  exact Work.run_searchEntries showing (Store.search_of_fetch fetch_eq inside)

theorem returnsMore :
    (Work.searchEntries "logs.db" (some 15) search).run workspace =
      (.ok [late.entry, last.entry, old.entry], workspace) := by
  have showing : workspace.Shows "logs.db" (some 15) store wider :=
    shows (by decide) (eq_ok_of_toOption (by decide +kernel))
  have inside : insideWindow wider [late, last, old] =
      .ok [late, last, old] :=
    eq_ok_of_toOption (by decide +kernel)
  exact Work.run_searchEntries showing (Store.search_of_fetch fetch_eq inside)

end InvertedRange

theorem searchEntries_sublist_of_le_invertedRange :
    (Work.searchEntries "logs.db" (some 1) InvertedRange.search).run
        InvertedRange.workspace =
      (.ok [InvertedRange.late.entry, InvertedRange.last.entry],
        InvertedRange.workspace) ∧
    (Work.searchEntries "logs.db" (some 15) InvertedRange.search).run
        InvertedRange.workspace =
      (.ok [InvertedRange.late.entry, InvertedRange.last.entry,
        InvertedRange.old.entry], InvertedRange.workspace) ∧
    [InvertedRange.late.entry, InvertedRange.last.entry].Sublist
      [InvertedRange.late.entry, InvertedRange.last.entry,
        InvertedRange.old.entry] := by
  have fewer : (1 : Int) ≤ 15 := by decide
  have kept := searchEntries_sublist_of_le (Int.le_refl 1) fewer
    InvertedRange.returns InvertedRange.returnsMore
  exact ⟨InvertedRange.returns, InvertedRange.returnsMore, kept.1⟩

end ClusterLog
