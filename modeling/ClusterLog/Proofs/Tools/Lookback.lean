import ClusterLog.Proofs.Calendar.Lookback
import ClusterLog.Proofs.Tools.Ingestion

/-!
# Lookbacks beyond the calendar

The start of the covered days is computed before it is moved to the first entry
of a log.  So the windows of hosts are defined exactly if the calendar goes back
the asked number of days before the last entry of each log, also where the logs
themselves do not go back that far.  Else no search and no ingestion returns.
-/

namespace ClusterLog

open Calendar

/-! ## Windows -/

/-- The calendar began the asked number of days before the end of each log, or
earlier. -/
def LogRanges.ReachBack (ranges : LogRanges) (days : Int) : Prop :=
  ∀ entry ∈ ranges, days ≤ entry.2.last.date.number

/-- The window of a log starts a number of days before its end, but not before
its first entry, and the log is cut if it goes back so far.  All points in time
are counted in seconds, which may lie before the calendar. -/
structure DateRange.IsCovered (range : DateRange) (days : Int)
    (cutoff : DateTime) (cut : Bool) : Prop where
  starts : (cutoff.seconds : Int) =
    max (range.first.seconds : Int) (range.last.seconds - days * 86400)
  cuts : cut = true ↔
    (range.first.seconds : Int) ≤ range.last.seconds - days * 86400

/-- Each log has its window, and no other host has one. -/
structure LogRanges.AreCovered (ranges : LogRanges) (days : Int)
    (window : ReportWindow) (truncated : List (String × Bool)) : Prop where
  known : ∀ {host range}, ranges.lookup host = some range →
    ∃ cutoff cut,
      window.lookup host = some cutoff ∧
      truncated.lookup host = some cut ∧
      range.IsCovered days cutoff cut
  unknown : ∀ {host}, ranges.lookup host = none →
    window.lookup host = none ∧ truncated.lookup host = none

variable {ranges : LogRanges} {days : Int}

theorem DateRange.isCovered_of_isDaysBefore {range : DateRange}
    {start : DateTime} (before : start.IsDaysBefore days range.last) :
    range.IsCovered days (DateTime.later start range.first)
      (!decide (start < range.first)) := by
  unfold DateTime.IsDaysBefore at before
  constructor
  case starts =>
    rw [DateTime.seconds_later]
    omega
  case cuts =>
    simp only [Bool.not_eq_true', decide_eq_false_iff_not, DateTime.lt_iff]
    omega

/-- The start of the covered days is found if the calendar goes back to it. -/
theorem DateRange.exists_lookback (positive : 1 ≤ days) {range : DateRange}
    (old : days ≤ range.last.date.number) :
    ∃ start, range.lookback days = .ok start := by
  rcases (DateTime.exists_isDaysBefore_iff positive).mpr old with
    ⟨start, before⟩
  exact ⟨start, lookback_eq_ok_iff.mpr
    (DateTime.minusDays?_eq_some_iff.mpr before)⟩

theorem DateRange.lookback_eq_error (positive : 1 ≤ days) {range : DateRange}
    (young : ¬ days ≤ range.last.date.number) :
    range.lookback days = .error .dateOutOfRange := by
  unfold lookback
  cases back : range.last.minusDays? days with
  | none => rfl
  | some start =>
      have before := DateTime.minusDays?_eq_some_iff.mp back
      exact absurd ((DateTime.exists_isDaysBefore_iff positive).mp
        ⟨start, before⟩) young

/-- What is made of the start of the covered days of each log is made of all
logs, unless the calendar does not go back far enough for one of them. -/
theorem mapM_lookback_outcome {Made : Type} (positive : 1 ≤ days)
    (make : DateRange → DateTime → Made)
    (compute : DateRange → Except Failure Made)
    (computes : ∀ range, compute range = do
      return make range (← range.lookback days))
    (ranges : LogRanges) :
    (ranges.ReachBack days → ∃ results,
      (ranges.mapM fun (host, range) => do
        return (host, ← compute range)) = .ok results) ∧
    (¬ ranges.ReachBack days →
      (ranges.mapM fun (host, range) => do
        return (host, ← compute range)) = .error .dateOutOfRange) := by
  refine mapM_outcome ?_ ?_ ranges
  · rintro ⟨host, range⟩ old
    rcases DateRange.exists_lookback positive old with ⟨start, back⟩
    exact ⟨(host, make range start), by simp only [computes, back]; rfl⟩
  · rintro ⟨host, range⟩ young
    simp only [computes, DateRange.lookback_eq_error positive young]
    rfl

theorem reportWindow_outcome (positive : 1 ≤ days) (ranges : LogRanges) :
    (ranges.ReachBack days → ∃ window, reportWindow ranges days = .ok window) ∧
    (¬ ranges.ReachBack days →
      reportWindow ranges days = .error .dateOutOfRange) := by
  rw [reportWindow, if_neg (by omega)]
  exact mapM_lookback_outcome positive
    (fun range start => DateTime.later start range.first)
    (·.windowStart days) (fun _ => rfl) ranges

theorem truncatedHosts_outcome (positive : 1 ≤ days) (ranges : LogRanges) :
    (ranges.ReachBack days →
      ∃ truncated, truncatedHosts ranges days = .ok truncated) ∧
    (¬ ranges.ReachBack days →
      truncatedHosts ranges days = .error .dateOutOfRange) :=
  mapM_lookback_outcome positive
    (fun range start => !decide (start < range.first))
    (·.isTruncated days) (fun _ => rfl) ranges

/-- The windows and the cuts that are computed are the ones of the logs. -/
theorem areCovered_of_reportWindow {window : ReportWindow}
    {truncated : List (String × Bool)}
    (covers : reportWindow ranges days = .ok window)
    (cuts : truncatedHosts ranges days = .ok truncated) :
    ranges.AreCovered days window truncated := by
  constructor
  case known =>
    intro host range found
    have starts : (window.lookup host).isSome = true := by
      rw [isSome_lookup_reportWindow covers, found]
      rfl
    rcases Option.isSome_iff_exists.mp starts with ⟨cutoff, inWindow⟩
    rcases (lookup_reportWindow covers).mp inWindow with
      ⟨same, start, foundToo, back, rfl⟩
    obtain rfl : range = same := Option.some.inj (found.symm.trans foundToo)
    exact ⟨_, _, inWindow,
      (lookup_truncatedHosts cuts).mpr ⟨range, start, found, back, rfl⟩,
      DateRange.isCovered_of_isDaysBefore
        (DateTime.minusDays?_eq_some_iff.mp back)⟩
  case unknown =>
    intro host missing
    constructor
    · rw [← Option.not_isSome_iff_eq_none, isSome_lookup_reportWindow covers,
        missing]
      exact Bool.false_ne_true
    · cases cut : truncated.lookup host with
      | none => rfl
      | some value =>
          rcases (lookup_truncatedHosts cuts).mp cut with ⟨range, _, found, -⟩
          rw [missing] at found
          cases found

/-! ## Searches and ingestions -/

/-- An index that a tool is given holds a store with ranges, and is asked for a
number of days. -/
structure Workspace.Asks (workspace : Workspace) (index : String)
    (daysAsked : Option Int) (store : Store) (ranges : LogRanges) (days : Int) :
    Prop where
  found : ∃ path,
    confine workspace.environment workspace.accounts workspace.tree.current
      index = .ok path ∧
    workspace.tree.store? path = .ok (some store)
  settings : ∃ config,
    IndexConfig.resolve {} workspace.environment = .ok config
  loads : store.loadRanges = .ok ranges
  asked : reportDays daysAsked workspace.environment = .ok days

/-- An index is rebuilt from artifacts whose logs have ranges, and a number of
days is asked for. -/
structure Workspace.Rebuilds (before after : Workspace)
    (artifacts index : String) (daysAsked : Option Int) (ranges : LogRanges)
    (days : Int) : Prop where
  rebuilt : ∃ root path config summaries,
    confine before.environment before.accounts before.tree.current artifacts =
      .ok root ∧
    confine before.environment before.accounts before.tree.current index =
      .ok path ∧
    IndexConfig.resolve {} before.environment = .ok config ∧
    (Work.rebuildWithRanges path config root).run before =
      (.ok (summaries, ranges), after)
  asked : reportDays daysAsked before.environment = .ok days

section Runs

variable {before after : Workspace} {artifacts index : String}
variable {daysAsked : Option Int} {store : Store} {failure : Failure}

theorem Workspace.Asks.shows {window : ReportWindow}
    (asking : before.Asks index daysAsked store ranges days)
    (covers : reportWindow ranges days = .ok window) :
    before.Shows index daysAsked store window where
  found := asking.found
  settings := asking.settings
  covers := ⟨ranges, days, asking.loads, asking.asked, covers⟩

/-- A search fails where there is no window. -/
theorem Workspace.Asks.run_searchEntries
    (asking : before.Asks index daysAsked store ranges days)
    (fails : reportWindow ranges days = .error failure) (search : Search) :
    (Work.searchEntries index daysAsked search).run before =
      (.error failure, before) := by
  rcases asking.found with ⟨path, confines, known⟩
  rcases asking.settings with ⟨config, resolves⟩
  have loads : before.tree.loadRanges path = .ok ranges := by
    rw [FileTree.loadRanges_of_store? known]
    exact asking.loads
  unfold Work.searchEntries Work.searchWindow
  rw [run_bind_of_unchanging (Work.run_confined index) confines,
    run_bind_of_unchanging Work.run_freshConfig resolves,
    run_bind_of_ok Work.run_get,
    run_bind_of_unchanging (run_lift _) loads,
    run_bind_of_unchanging Work.run_days asking.asked]
  apply run_bind_of_error
  rw [run_lift, fails]

/-- An ingestion returns where there are windows and cuts. -/
theorem Workspace.Rebuilds.exists_report {window : ReportWindow}
    {truncated : List (String × Bool)}
    (rebuilding : before.Rebuilds after artifacts index daysAsked ranges days)
    (covers : reportWindow ranges days = .ok window)
    (cuts : truncatedHosts ranges days = .ok truncated) :
    ∃ report,
      (Work.ingestLogs artifacts index daysAsked).run before =
        (.ok report, after) := by
  rcases rebuilding.rebuilt with
    ⟨root, path, config, summaries, confinesRoot, confinesIndex, resolves,
      rebuilds⟩
  rcases Work.exists_store_of_rebuildWithRanges rebuilds with ⟨store, stored, -⟩
  have counts := FileTree.documentCount_of_store? stored
  exact ⟨_, Work.run_ingestLogs confinesRoot confinesIndex resolves
    rebuilding.asked rebuilds covers cuts counts⟩

/-- An ingestion fails where there are no windows, when the index has been
rebuilt already. -/
theorem Workspace.Rebuilds.run_ingestLogs
    (rebuilding : before.Rebuilds after artifacts index daysAsked ranges days)
    (fails : reportWindow ranges days = .error failure) :
    (Work.ingestLogs artifacts index daysAsked).run before =
      (.error failure, after) := by
  rcases rebuilding.rebuilt with
    ⟨root, path, config, summaries, confinesRoot, confinesIndex, resolves,
      rebuilds⟩
  rw [Work.ingestLogs,
    run_bind_of_unchanging (Work.run_confined artifacts) confinesRoot,
    run_bind_of_unchanging (Work.run_confined index) confinesIndex,
    run_bind_of_unchanging Work.run_freshConfig resolves,
    run_bind_of_unchanging Work.run_days rebuilding.asked,
    run_bind_of_ok rebuilds]
  apply run_bind_of_error
  rw [run_lift, fails]

end Runs

/--
If the calendar goes back the asked number of days before the end of each log,
each host has the window that starts at the later one of that point in time and
of the log's first entry, each search goes through these windows, and each
ingestion returns.  Else there are no windows and no cuts, and each search and
each ingestion ends with the date that the calendar does not have.
-/
theorem lookback_outcome {ranges : LogRanges} {days : Int}
    (positive : 1 ≤ days) :
    (ranges.ReachBack days →
      ∃ window truncated,
        reportWindow ranges days = .ok window ∧
        truncatedHosts ranges days = .ok truncated ∧
        ranges.AreCovered days window truncated ∧
        (∀ {workspace index daysAsked store},
          Workspace.Asks workspace index daysAsked store ranges days →
          ∀ search, (Work.searchEntries index daysAsked search).run workspace =
            (store.search window search, workspace)) ∧
        ∀ {before after artifacts index daysAsked},
          Workspace.Rebuilds before after artifacts index daysAsked ranges
            days →
          ∃ report, (Work.ingestLogs artifacts index daysAsked).run before =
            (.ok report, after)) ∧
    (¬ ranges.ReachBack days →
      reportWindow ranges days = .error .dateOutOfRange ∧
      truncatedHosts ranges days = .error .dateOutOfRange ∧
      (∀ {workspace index daysAsked store},
        Workspace.Asks workspace index daysAsked store ranges days →
        ∀ search, (Work.searchEntries index daysAsked search).run workspace =
          (.error .dateOutOfRange, workspace)) ∧
      ∀ {before after artifacts index daysAsked},
        Workspace.Rebuilds before after artifacts index daysAsked ranges days →
        (Work.ingestLogs artifacts index daysAsked).run before =
          (.error .dateOutOfRange, after)) := by
  constructor
  · intro reaches
    rcases (reportWindow_outcome positive ranges).1 reaches with
      ⟨window, covers⟩
    rcases (truncatedHosts_outcome positive ranges).1 reaches with
      ⟨truncated, cuts⟩
    exact ⟨window, truncated, covers, cuts,
      areCovered_of_reportWindow covers cuts,
      fun asking => Work.run_searchEntries_eq (asking.shows covers),
      fun rebuilding => rebuilding.exists_report covers cuts⟩
  · intro young
    have fails := (reportWindow_outcome positive ranges).2 young
    exact ⟨fails, (truncatedHosts_outcome positive ranges).2 young,
      fun asking => asking.run_searchEntries fails,
      fun rebuilding => rebuilding.run_ingestLogs fails⟩

/-! ## A log of January 2020 -/

namespace LongLookback

/-- Midnight of a day in January 2020. -/
def midnight (day : Nat) (valid : IsDate 2020 1 day) : DateTime :=
  ⟨⟨2020, 1, day, valid⟩, 0, 0, 0, DateTime.midnight_valid⟩

theorem valid_first : IsDate 2020 1 1 := by
  decide

theorem valid_last : IsDate 2020 1 31 := by
  decide

def january : LogRanges :=
  [("n1", ⟨midnight 1 valid_first, midnight 31 valid_last⟩)]

def document : Document :=
  ⟨"n1", "INFO", "hello", "20200110000000"⟩

def store : Store where
  documents := some [document]
  ranges := some [⟨"n1", "20200101000000", "20200131000000"⟩]

def workspace : Workspace where
  tree := { nodes := [(["logs.db"], .index store)] }

theorem asks {days : Int} (positive : 1 ≤ days) :
    workspace.Asks "logs.db" (some days) store january days where
  found := ⟨⟨.root, ["logs.db"]⟩, eq_ok_of_toOption (by decide +kernel), rfl⟩
  settings := ⟨{}, rfl⟩
  loads := eq_ok_of_toOption (by decide +kernel)
  asked := reportDays_some positive _

theorem rebuilds {days : Int} (positive : 1 ≤ days) :
    ∃ after, OneNode.workspace.Rebuilds after "/cluster" "logs.db" (some days)
      [("n1", ⟨OneNode.time, OneNode.time⟩)] days := by
  rcases OneNode.rebuilds with ⟨summary, after, rebuilds, -⟩
  refine ⟨after, ⟨OneNode.root, OneNode.index, {}, [summary],
    OneNode.confines_root, OneNode.confines_index, rfl, rebuilds⟩, ?_⟩
  exact reportDays_some positive _

end LongLookback

/-- Ten days before the end of the log. -/
theorem lookback_outcome_tenDays :
    (1 : Int) ≤ 10 ∧
    LongLookback.january.ReachBack 10 ∧
    ∃ window truncated,
      reportWindow LongLookback.january 10 = .ok window ∧
      truncatedHosts LongLookback.january 10 = .ok truncated ∧
      window.lookup "n1" = some (LongLookback.midnight 21 (by decide)) ∧
      truncated.lookup "n1" = some true ∧
      ∀ search,
        (Work.searchEntries "logs.db" (some 10) search).run
            LongLookback.workspace =
          (LongLookback.store.search window search,
            LongLookback.workspace) := by
  have positive : (1 : Int) ≤ 10 := by decide
  have reaches : LongLookback.january.ReachBack 10 := by
    intro entry member
    rw [LongLookback.january, List.mem_singleton] at member
    subst member
    decide +kernel
  rcases (lookback_outcome positive).1 reaches with
    ⟨window, truncated, covers, cuts, covered, searches, -⟩
  have found : LongLookback.january.lookup "n1" = some
      ⟨LongLookback.midnight 1 LongLookback.valid_first,
        LongLookback.midnight 31 LongLookback.valid_last⟩ := rfl
  rcases covered.known found with ⟨cutoff, cut, starts, truncates, holds⟩
  have first : (LongLookback.midnight 1 LongLookback.valid_first).seconds =
      63713433600 := by decide +kernel
  have start : (LongLookback.midnight 21 (by decide)).seconds =
      63715161600 := by decide +kernel
  have last : (LongLookback.midnight 31 LongLookback.valid_last).seconds =
      63716025600 := by decide +kernel
  have cutoffSeconds := holds.starts
  have inside := holds.cuts
  rw [first, last] at cutoffSeconds inside
  obtain rfl : cutoff = LongLookback.midnight 21 (by decide) :=
    DateTime.eq_of_seconds_eq (by rw [start]; omega)
  obtain rfl : cut = true := inside.mpr (by omega)
  exact ⟨positive, reaches, window, truncated, covers, cuts, starts, truncates,
    searches (LongLookback.asks positive)⟩

/-- A lookback that is accepted, but goes back behind the first day of year 1:
there is no window, no search and no ingestion, although each log has its first
entry where the window has to start. -/
theorem exists_refused_lookback :
    (∀ entry ∈ LongLookback.january, entry.2.first ≤ entry.2.last) ∧
    reportDays (some 800000) [] = .ok 800000 ∧
    reportWindow LongLookback.january 800000 = .error .dateOutOfRange ∧
    truncatedHosts LongLookback.january 800000 = .error .dateOutOfRange ∧
    (Work.searchLogs "logs.db" "hello" none none (some 800000)).run
        LongLookback.workspace =
      (.error .dateOutOfRange, LongLookback.workspace) ∧
    ∃ after,
      (Work.ingestLogs "/cluster" "logs.db" (some 800000)).run
          OneNode.workspace =
        (.error .dateOutOfRange, after) := by
  have positive : (1 : Int) ≤ 800000 := by decide
  have ordered : ∀ entry ∈ LongLookback.january,
      entry.2.first ≤ entry.2.last := by
    intro entry member
    rw [LongLookback.january, List.mem_singleton] at member
    subst member
    decide +kernel
  have young : ¬ LongLookback.january.ReachBack 800000 := fun reaches =>
    absurd (reaches _ List.mem_cons_self) (by decide +kernel)
  have fails := (reportWindow_outcome positive _).2 young
  have searches :
      (Work.searchLogs "logs.db" "hello" none none (some 800000)).run
          LongLookback.workspace =
        (.error .dateOutOfRange, LongLookback.workspace) := by
    have limit : resolveLimit none defaultLimit = .ok defaultLimit := rfl
    have level : levelOf none = .ok none := rfl
    rw [Work.searchLogs, run_bind_of_unchanging (run_lift _) limit,
      run_bind_of_unchanging (run_lift _) level]
    exact (LongLookback.asks positive).run_searchEntries fails _
  have youngToo : ¬ LogRanges.ReachBack
      [("n1", ⟨OneNode.time, OneNode.time⟩)] 800000 := fun reaches =>
    absurd (reaches _ List.mem_cons_self) (by decide +kernel)
  have failsToo := (reportWindow_outcome positive _).2 youngToo
  rcases LongLookback.rebuilds positive with ⟨after, rebuilding⟩
  exact ⟨ordered, rfl, fails, (truncatedHosts_outcome positive _).2 young,
    searches, after, rebuilding.run_ingestLogs failsToo⟩

end ClusterLog
