import ClusterLog.Proofs.Index.Hits
import ClusterLog.Proofs.Workspace.Running
import ClusterLog.Tools.Search

/-!
# Searches of tools

A tool that searches an index looks at what its file holds, through the report
windows of the saved date ranges, and changes nothing.
-/

namespace ClusterLog

/-- A report covers the days that it is asked for. -/
theorem reportDays_some {days : Int} (positive : 1 ≤ days)
    (environment : Environment) :
    reportDays (some days) environment = .ok days := by
  rw [reportDays]
  exact if_neg (by omega)

/-- The index that a tool is given holds a store, and is looked at through a
window. -/
structure Workspace.Shows
    (workspace : Workspace) (index : String) (daysAsked : Option Int)
    (store : Store) (window : ReportWindow) : Prop where
  found : ∃ path,
    confine workspace.environment workspace.accounts workspace.tree.current
      index = .ok path ∧
    workspace.tree.store? path = .ok (some store)
  settings : ∃ config,
    IndexConfig.resolve {} workspace.environment = .ok config
  covers : ∃ ranges days,
    store.loadRanges = .ok ranges ∧
    reportDays daysAsked workspace.environment = .ok days ∧
    reportWindow ranges days = .ok window

/-- An index shows one store through one window. -/
theorem Workspace.Shows.unique
    {workspace : Workspace} {index : String} {daysAsked : Option Int}
    {store other : Store} {window otherWindow : ReportWindow}
    (showing : workspace.Shows index daysAsked store window)
    (showing' : workspace.Shows index daysAsked other otherWindow) :
    store = other ∧ window = otherWindow := by
  rcases showing.found with ⟨path, confines, contents⟩
  rcases showing'.found with ⟨path', confines', contents'⟩
  rcases Except.ok.inj (confines.symm.trans confines') with rfl
  rcases Option.some.inj (Except.ok.inj (contents.symm.trans contents')) with
    rfl
  rcases showing.covers with ⟨ranges, days, loads, asked, covers⟩
  rcases showing'.covers with ⟨ranges', days', loads', asked', covers'⟩
  rcases Except.ok.inj (loads.symm.trans loads') with rfl
  rcases Except.ok.inj (asked.symm.trans asked') with rfl
  exact ⟨rfl, Except.ok.inj (covers.symm.trans covers')⟩

namespace FileTree

theorem existingStore_eq_ok {tree : FileTree} {path : Path} {store : Store} :
    tree.existingStore path = .ok store ↔
      tree.store? path = .ok (some store) := by
  simp only [existingStore, bind, Except.bind]
  cases tree.store? path with
  | error failure => simp
  | ok contents => cases contents <;> simp [pure, Except.pure, throw, throwThe,
      MonadExceptOf.throw]

theorem loadRanges_of_store? {tree : FileTree} {path : Path} {store : Store}
    (contents : tree.store? path = .ok (some store)) :
    tree.loadRanges path = store.loadRanges := by
  rw [loadRanges, existingStore_eq_ok.mpr contents]
  rfl

end FileTree

namespace Work

variable {before after : Workspace} {index : String} {daysAsked : Option Int}

theorem run_confined (text : String) :
    (confined text).run before =
      (confine before.environment before.accounts before.tree.current text,
        before) := by
  unfold confined
  rw [run_bind_of_ok run_get]
  cases confine before.environment before.accounts before.tree.current text <;>
    rfl

theorem run_freshConfig :
    freshConfig.run before =
      (IndexConfig.resolve {} before.environment, before) := by
  unfold freshConfig
  rw [run_bind_of_ok run_get]
  cases IndexConfig.resolve {} before.environment <;> rfl

theorem run_days :
    (days daysAsked).run before =
      (reportDays daysAsked before.environment, before) := by
  unfold days
  rw [run_bind_of_ok run_get]
  cases reportDays daysAsked before.environment <;> rfl

/-- What a tool finds if its search succeeds. -/
theorem run_searchEntries_eq_ok {search : Search} {entries : List Entry}
    (succeeds :
      (searchEntries index daysAsked search).run before = (.ok entries, after)) :
    after = before ∧
    ∃ store window,
      before.Shows index daysAsked store window ∧
      store.search window search = .ok entries := by
  unfold searchEntries searchWindow at succeeds
  rcases run_bind_eq_ok_of_unchanging (run_confined index) succeeds with
    ⟨path, confines, succeeds⟩
  rcases run_bind_eq_ok_of_unchanging run_freshConfig succeeds with
    ⟨config, resolves, succeeds⟩
  rw [run_bind_of_ok run_get] at succeeds
  rcases run_bind_eq_ok_of_unchanging (run_lift _) succeeds with
    ⟨ranges, loads, succeeds⟩
  rcases run_bind_eq_ok_of_unchanging run_days succeeds with
    ⟨number, asked, succeeds⟩
  rcases run_bind_eq_ok_of_unchanging (run_lift _) succeeds with
    ⟨window, covers, succeeds⟩
  rw [run_bind_of_ok run_get] at succeeds
  rcases run_bind_eq_ok_of_unchanging (run_lift _) succeeds with
    ⟨store, contents, succeeds⟩
  rcases run_lift_eq_ok.mp succeeds with ⟨found, unchanged⟩
  have known := FileTree.existingStore_eq_ok.mp contents
  rw [FileTree.loadRanges_of_store? known] at loads
  exact ⟨unchanged, store, window,
    { found := ⟨path, confines, known⟩
      settings := ⟨config, resolves⟩
      covers := ⟨ranges, number, loads, asked, covers⟩ }, found⟩

/-- A tool answers as a search of the shown store does. -/
theorem run_searchEntries_eq {store : Store} {window : ReportWindow}
    (showing : before.Shows index daysAsked store window) (search : Search) :
    (searchEntries index daysAsked search).run before =
      (store.search window search, before) := by
  rcases showing.found with ⟨path, confines, known⟩
  rcases showing.settings with ⟨config, resolves⟩
  rcases showing.covers with ⟨ranges, number, loads, asked, covers⟩
  rw [← FileTree.loadRanges_of_store? known] at loads
  have contents := FileTree.existingStore_eq_ok.mpr known
  unfold searchEntries searchWindow
  rw [run_bind_of_unchanging (run_confined index) confines,
    run_bind_of_unchanging run_freshConfig resolves,
    run_bind_of_ok run_get,
    run_bind_of_unchanging (run_lift _) loads,
    run_bind_of_unchanging run_days asked,
    run_bind_of_unchanging (run_lift _) covers,
    run_bind_of_ok run_get,
    run_bind_of_unchanging (run_lift _) contents, run_lift]

/-- A tool finds what a search of the shown store does. -/
theorem run_searchEntries {store : Store} {window : ReportWindow}
    (showing : before.Shows index daysAsked store window)
    {search : Search} {entries : List Entry}
    (finds : store.search window search = .ok entries) :
    (searchEntries index daysAsked search).run before =
      (.ok entries, before) := by
  rw [run_searchEntries_eq showing, finds]

end Work

end ClusterLog
