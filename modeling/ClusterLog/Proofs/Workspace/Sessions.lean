import ClusterLog.Proofs.Index.History
import ClusterLog.Proofs.Ingest.Readings
import ClusterLog.Proofs.Workspace.WriterSession

/-!
# Histories of index files

The sessions of an open writer and the ingestions of clusters continue the
history of the index in its file.
-/

namespace ClusterLog

/-- A session of an open writer leaves in the file of the index what it makes of
the index. -/
theorem Workspace.rests_session {before opened : Workspace} {path : Path}
    {ready : FileTree} {store : Store} (session : Session)
    (opens : (Work.openWriter path session.fresh).run before = (.ok (), opened))
    (settings : opened.configAt path = session.config)
    (made : before.tree.makeDirectory path.parent = .ok ready)
    (holds : ready.storeOrEmpty path = .ok store) :
    ∃ during ended,
      (WriterCall.performAll path session.calls).run opened =
        (.ok (), during) ∧
      (if session.completes then Work.closeWriter path
        else Work.abortWriter path).run during = (.ok (), ended) ∧
      ended.Rests path (session.run store) := by
  rcases writes_of_openWriter opens with
    ⟨found, config, present, made', holds', writes⟩
  obtain rfl := Except.ok.inj (made.symm.trans made')
  obtain rfl := Except.ok.inj (holds.symm.trans holds')
  obtain rfl : config = session.config := writes.configAt.symm.trans settings
  rcases writes.run_performAll session.calls with
    ⟨during, performed, afterWrites⟩
  cases completes : session.completes with
  | true =>
      rcases afterWrites.run_closeWriter with ⟨ended, closes, rests⟩
      refine ⟨during, ended, performed, closes, ?_⟩
      rw [Session.run, completes]
      exact rests
  | false =>
      rcases afterWrites.run_abortWriter with ⟨ended, aborts, rests⟩
      refine ⟨during, ended, performed, aborts, ?_⟩
      rw [Session.run, completes]
      exact rests

/-- An ingestion of a cluster begins the history of the index anew. -/
theorem FileTree.history_of_ingestCluster {tree started : FileTree}
    {index root : Path} (config : IndexConfig)
    (there : tree.isDirectory root = true)
    (empties : tree.emptied index = .ok started) :
    ∃ store : Store,
      (tree.ingestCluster index config root).2.find? index =
        some (.index store) ∧
      store.History (List.replicate store.count config) := by
  let nodes := (tree.clusterLogs index root).items
  have filtered : ∀ call ∈ nodes.flatMap NodeLogs.calls, call.IsFiltered := by
    intro call member
    rcases NodeLogs.exists_write_of_mem_calls member with ⟨host, entries, rfl⟩
    trivial
  let session : Session :=
    ⟨config, true, nodes.flatMap NodeLogs.calls, filtered, true⟩
  have stored : session.run {} =
      { documents := some (nodes.flatMap (NodeLogs.documents config)) } :=
    (NodeLogs.store_runAll_calls config nodes).1
  rcases ingestCluster_eq config there empties with ⟨outcome, runs, -⟩
  rcases emptied_eq_ok empties with
    ⟨ready, location, makes, place, noDirectory, rfl⟩
  refine ⟨session.run {}, ?_, .session .new session⟩
  rw [runs, stored]
  exact find?_putStore_of_find? (find?_putStore place noDirectory _) _

end ClusterLog
