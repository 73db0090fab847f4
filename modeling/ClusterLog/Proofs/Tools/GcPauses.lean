import ClusterLog.Proofs.Computation
import ClusterLog.Proofs.Diagnostics.GcDays
import ClusterLog.Proofs.Tools.Search

/-!
# Reports of pauses

The tool for pauses searches an index and lists the pauses that the entries
report, in the order of the search.  It counts them and the long ones among them
itself, and its summary counts them day by day.
-/

namespace ClusterLog

open Calendar Query

namespace Work

variable {before after : Workspace} {index : String}
variable {limit daysAsked : Option Int} {report : GcReport}

/-- What a report of pauses is about. -/
theorem run_gcPauses_eq_ok
    (returns :
      (gcPauses index limit daysAsked).run before = (.ok report, after)) :
    after = before ∧
    ∃ store window bound entries found,
      before.Shows index daysAsked store window ∧
      resolveLimit limit hardLimit = .ok bound ∧
      store.search window { query := gcQuery, limit := bound } = .ok entries ∧
      entries.mapM GcPause.ofEntry = .ok found ∧
      report.pauses = found.filterMap id ∧
      report.days = gcDays report.pauses := by
  unfold gcPauses at returns
  rcases run_bind_eq_ok_of_unchanging (run_lift _) returns with
    ⟨bound, bounded, returns⟩
  rcases run_bind_eq_ok.mp returns with ⟨entries, between, searched, returns⟩
  rcases run_searchEntries_eq_ok searched with
    ⟨unchanged, store, window, showing, finds⟩
  rcases run_bind_eq_ok_of_unchanging (run_lift _) returns with
    ⟨found, reading, returns⟩
  cases returns
  exact ⟨unchanged, store, window, bound, entries, found, showing, bounded, finds,
    reading, rfl, rfl⟩

/-- A report of pauses. -/
theorem run_gcPauses {store : Store} {window : ReportWindow} {bound : Int}
    {entries : List Entry} {found : List (Option GcPause)}
    (showing : before.Shows index daysAsked store window)
    (bounded : resolveLimit limit hardLimit = .ok bound)
    (finds :
      store.search window { query := gcQuery, limit := bound } = .ok entries)
    (reading : entries.mapM GcPause.ofEntry = .ok found) :
    (gcPauses index limit daysAsked).run before =
      (.ok {
        pauses := found.filterMap id
        days := gcDays (found.filterMap id) }, before) := by
  unfold gcPauses
  rw [run_bind_of_unchanging (run_lift _) bounded,
    run_bind_of_ok (run_searchEntries showing finds),
    run_bind_of_unchanging (run_lift _) reading]
  rfl

end Work

/-- The counts of a report are the totals of its days. -/
theorem GcReport.counts_eq_sums {report : GcReport}
    (summary : report.days = gcDays report.pauses) :
    report.count = (report.days.map (·.pauses)).sum ∧
    report.longPauses = (report.days.map (·.longPauses)).sum := by
  rw [summary, sum_pauses_gcDays, sum_longPauses_gcDays]
  exact ⟨rfl, rfl⟩

/--
Pauses in years of four digits are summarised by the days on which there was one,
in chronological order, and each pause counts for the one day that it is on, and
as medium or long at most once.  The totals of the days are those of all pauses,
and pauses in another order have the same summary.  A report that lists these
pauses has their number, which is the total of its days, and the total of their
long pauses.
-/
theorem gcPauses_addUp {pauses : List GcPause}
    (modern : ∀ pause ∈ pauses, pause.date.IsModern) :
    (∃ dates : List Date,
      dates.Pairwise (·.number < ·.number) ∧
      (∀ pause ∈ pauses, dates.count pause.date.date = 1) ∧
      (∀ date ∈ dates, ∃ pause ∈ pauses, pause.date.date = date) ∧
      gcDays pauses = dates.map (GcDay.ofDate pauses)) ∧
    (∀ day ∈ gcDays pauses, day.mediumPauses + day.longPauses ≤ day.pauses) ∧
    ((gcDays pauses).map (·.pauses)).sum = pauses.length ∧
    ((gcDays pauses).map (·.mediumPauses)).sum =
      pauses.countP (fun pause =>
        100 < pause.milliseconds && pause.milliseconds ≤ 1000) ∧
    ((gcDays pauses).map (·.longPauses)).sum =
      pauses.countP (1000 < ·.milliseconds) ∧
    (∀ others, pauses.Perm others → gcDays pauses = gcDays others) ∧
    ∀ before after index limit daysAsked report,
      (Work.gcPauses index limit daysAsked).run before = (.ok report, after) →
      report.pauses = pauses →
        report.days = gcDays pauses ∧
        report.count = pauses.length ∧
        report.count = (report.days.map (·.pauses)).sum ∧
        report.longPauses = (report.days.map (·.longPauses)).sum := by
  have days := gcDays_eq modern
  refine ⟨⟨gcDates pauses, pairwise_gcDates pauses, ?_, ?_, days⟩, ?_,
    sum_pauses_gcDays pauses, sum_mediumPauses_gcDays pauses,
    sum_longPauses_gcDays pauses, ?_, ?_⟩
  · intro pause member
    exact count_gcDates member
  · intro date member
    exact mem_gcDates.mp member
  · intro day member
    rw [days] at member
    rcases List.mem_map.mp member with ⟨date, -, rfl⟩
    have parts := GcDay.pauses_ofDate pauses date
    omega
  · intro others same
    exact gcDays_eq_of_perm modern same
  · rintro before after index limit daysAsked report returns rfl
    obtain ⟨-, -, -, -, -, -, -, -, -, -, -, summary⟩ :=
      Work.run_gcPauses_eq_ok returns
    obtain ⟨count, longPauses⟩ := GcReport.counts_eq_sums summary
    exact ⟨summary, rfl, count, longPauses⟩

/-! ## Pauses at the bounds -/

namespace AtBounds

/-- The message about a pause. -/
def message (milliseconds : String) : String :=
  "GCInspector.java:284 - ParNew GC in " ++ milliseconds ++ "ms."

def documents : List Document := [
  ⟨"a", "WARN", message "1001", "20200102000000"⟩,
  ⟨"a", "INFO", message "1000", "20200102000000"⟩,
  ⟨"a", "INFO", message "101", "20200101000000"⟩,
  ⟨"a", "INFO", message "100", "20200101000000"⟩]

def store : Store where
  documents := some documents

def workspace : Workspace where
  tree := { nodes := [(["logs.db"], .index store)] }

def first : Date :=
  ⟨2020, 1, 1, by decide⟩

def second : Date :=
  ⟨2020, 1, 2, by decide⟩

/-- A pause on either side of each bound. -/
def pauses : List GcPause := [
  ⟨.parNew, 1001, second.midnight, "a"⟩, ⟨.parNew, 1000, second.midnight, "a"⟩,
  ⟨.parNew, 101, first.midnight, "a"⟩, ⟨.parNew, 100, first.midnight, "a"⟩]

def lines : List GcDay :=
  [⟨"2020-01-01", 2, 1, 0⟩, ⟨"2020-01-02", 2, 1, 1⟩]

/-- What the steps of the tool come to. -/
theorem steps :
    (confine [] [] [] "logs.db").toOption = some ⟨.root, ["logs.db"]⟩ ∧
    ((requestOf gcQuery).toOption.map fun request =>
      decide (∀ document ∈ documents, request.finds document = true)) =
        some true ∧
    (scopeChars defaultColumn.toList gcQuery.toList).isEmpty = false ∧
    documents.Pairwise (isNoEarlier · ·) ∧
    ((documents.map (·.entry)).mapM GcPause.ofEntry).toOption =
      some (pauses.map some) ∧
    [first, second].map (GcDay.ofDate pauses) = lines := by
  decide +kernel

theorem shows : workspace.Shows "logs.db" none store [] where
  found := ⟨⟨.root, ["logs.db"]⟩, eq_ok_of_toOption steps.1, rfl⟩
  settings := ⟨{}, rfl⟩
  covers := ⟨[], defaultReportDays, rfl, rfl, rfl⟩

theorem search_eq :
    store.search [] { query := gcQuery, limit := hardLimit } =
      .ok (documents.map (·.entry)) := by
  obtain ⟨-, requested, nonempty, sorted, -⟩ := steps
  rcases exists_ok_of_map_toOption requested with ⟨request, asked, finds⟩
  have found :
      (store.documentList.filter fun document =>
        request.finds document &&
          (none : Option String).all (· == document.level)) = documents := by
    apply List.filter_eq_self.mpr
    intro document member
    rw [of_decide_eq_true finds document member]
    rfl
  have hits : store.hits request none = documents := by
    rw [Store.hits_of_pairwise, found]
    rw [found]
    exact sorted
  have taken : store.fetch { query := gcQuery, limit := hardLimit } =
      .ok ((store.hits request none).take hardLimit.toNat) :=
    Store.fetch_of_request (by decide) (by decide) nonempty rfl asked
  rw [hits] at taken
  exact Store.search_of_fetch taken rfl

theorem returns :
    (Work.gcPauses "logs.db" none none).run workspace =
      (.ok { pauses, days := gcDays pauses }, workspace) := by
  obtain ⟨-, -, -, -, reading, -⟩ := steps
  rw [Work.run_gcPauses shows rfl search_eq (eq_ok_of_toOption reading)]
  rfl

theorem modern : ∀ pause ∈ pauses, pause.date.IsModern := by
  unfold DateTime.IsModern
  decide

/-- No other days than these are those of the pauses. -/
theorem eq_days {days : List Date}
    (sorted : days.Pairwise (·.number < ·.number))
    (listed : ∀ pause ∈ pauses, pause.date.date ∈ days)
    (paused : ∀ date ∈ days, ∃ pause ∈ pauses, pause.date.date = date) :
    days = [first, second] := by
  have increasing : [first, second].Pairwise (·.number < ·.number) := by
    decide
  have known : ∀ pause ∈ pauses, pause.date.date ∈ [first, second] := by
    decide
  apply Date.eq_of_increasing sorted increasing
  intro date
  constructor
  · intro member
    rcases paused date member with ⟨pause, inside, rfl⟩
    exact known pause inside
  · intro member
    have here : ∃ pause ∈ pauses, pause.date.date = date := by
      simp only [List.mem_cons, List.not_mem_nil, or_false] at member
      rcases member with rfl | rfl <;> decide
    rcases here with ⟨pause, inside, rfl⟩
    exact listed pause inside

end AtBounds

theorem gcPauses_addUp_atBounds :
    ∃ report,
      (Work.gcPauses "logs.db" none none).run AtBounds.workspace =
        (.ok report, AtBounds.workspace) ∧
      report.days = AtBounds.lines ∧
      report.count = 4 ∧
      report.longPauses = 1 := by
  obtain ⟨⟨dates, sorted, once, paused, days⟩, -, -, -, -, -, reports⟩ :=
    gcPauses_addUp AtBounds.modern
  obtain ⟨summary, count, -, longPauses⟩ :=
    reports _ _ _ _ _ _ AtBounds.returns rfl
  have listed : ∀ pause ∈ AtBounds.pauses, pause.date.date ∈ dates := by
    intro pause member
    exact List.count_pos_iff.mp (by rw [once pause member]; exact Nat.one_pos)
  obtain rfl := AtBounds.eq_days sorted listed paused
  obtain ⟨-, -, -, -, -, counted⟩ := AtBounds.steps
  have lines : gcDays AtBounds.pauses = AtBounds.lines := days.trans counted
  refine ⟨_, AtBounds.returns, lines, count, ?_⟩
  rw [longPauses, lines]
  rfl

end ClusterLog
