import ClusterLog.Proofs.Computation
import ClusterLog.Workspace

/-!
# Running work

What the steps of work read of a workspace, and what they leave of it.
-/

namespace ClusterLog.Work

variable {before after : Workspace}

@[simp]
theorem run_get :
    (get : Work Workspace).run before = (.ok before, before) :=
  rfl

@[simp]
theorem run_setTree (tree : FileTree) :
    (setTree tree).run before = (.ok (), { before with tree }) :=
  rfl

@[simp]
theorem run_setHandle (path : Path) (handle : Handle) :
    (setHandle path handle).run before =
      (.ok (), { before with
        handles := (path, handle) ::
          before.handles.filter (·.1 != path) }) :=
  rfl

/-! ## Indexes in use -/

/-- An index in use is found as it is. -/
theorem run_handle {path : Path} {handle : Handle}
    (inUse : before.handles.lookup path = some handle) :
    (Work.handle path).run before = (.ok handle, before) := by
  unfold Work.handle
  rw [run_bind_of_ok run_get]
  simp only [inUse]
  rfl

/-- An index that is asked for is in use afterwards. -/
theorem run_handle_eq_ok {path : Path} {handle : Handle}
    (succeeds : (Work.handle path).run before = (.ok handle, after)) :
    after.handles.lookup path = some handle ∧ after.tree = before.tree := by
  unfold Work.handle at succeeds
  rw [run_bind_of_ok run_get] at succeeds
  cases inUse : before.handles.lookup path with
  | some known =>
      simp only [inUse] at succeeds
      cases succeeds
      exact ⟨inUse, rfl⟩
  | none =>
      simp only [inUse] at succeeds
      rcases run_bind_eq_ok.mp succeeds with ⟨config, between, resolved, stored⟩
      rcases run_lift_eq_ok.mp resolved with ⟨-, rfl⟩
      cases stored
      exact ⟨List.lookup_cons_self, rfl⟩

/-! ## Whole indexes -/

/-- A rebuild leaves the files as the ingestion of the cluster does. -/
theorem run_rebuild (index root : Path) (config : IndexConfig) :
    (rebuild index config root).run before =
      ((before.tree.ingestCluster index config root).1,
        { before with
          tree := (before.tree.ingestCluster index config root).2 }) := by
  rw [rebuild, run_bind_of_ok run_get]
  dsimp only
  rw [run_bind_of_ok (run_setTree _), run_lift]

end ClusterLog.Work
