import ClusterLog.Proofs.Files.Location
import ClusterLog.Proofs.Index.Batching
import ClusterLog.Proofs.Workspace.Running

/-!
# Writer sessions

A session of an open writer is an index under a writer that is spread over the
workspace: what is stored stands in the file of the index, and what waits for
its batch belongs to the index in use.
-/

namespace ClusterLog

/-- Make a call of the open writer of an index. -/
def WriterCall.perform (path : Path) : WriterCall → Work Unit
  | .add document => do
    let _ ← Work.add path document
  | .flush => do
    let _ ← Work.flush path
  | .write host entries => do
    let _ ← Work.write path host entries
  | .brokenWrite host entries => do
    let writing ← Work.writing path
    Work.setWriting path
      (entries.foldl (Writing.writeEntry host) (writing, {})).1

/-- Make calls of the open writer of an index one after the other. -/
def WriterCall.performAll (path : Path) : List WriterCall → Work Unit
  | [] => pure ()
  | call :: calls => do
    call.perform path
    performAll path calls

namespace Workspace

/-- The writer of an index is open, and its file holds what is stored. -/
structure Writes
    (workspace : Workspace) (path : Path) (writing : Writing) : Prop where
  inUse : ∃ handle,
    workspace.handles.lookup path = some handle ∧
    handle.config = writing.config ∧
    handle.pending = some writing.pending ∧
    handle.hasLostFile = false
  found : workspace.tree.find? path = some (.index writing.store)

/-- The index is in use and has a file, but its writer is not open. -/
structure Rests
    (workspace : Workspace) (path : Path) (store : Store) : Prop where
  inUse : ∃ handle,
    workspace.handles.lookup path = some handle ∧ handle.pending = none
  found : workspace.tree.find? path = some (.index store)

/-- The settings of an index in use. -/
def configAt (workspace : Workspace) (path : Path) : IndexConfig :=
  ((workspace.handles.lookup path).map (·.config)).getD {}

/-- The documents that wait for their batch in an index. -/
def pendingAt (workspace : Workspace) (path : Path) : List Document :=
  ((workspace.handles.lookup path).bind (·.pending)).getD []

/-- Neither a writer nor a searcher of the index opens, and nothing changes
where one is asked for. -/
def IsLocked (workspace : Workspace) (path : Path) : Prop :=
  (∀ fresh,
    (Work.openWriter path fresh).run workspace =
      (.error (.writerOpen path.text), workspace)) ∧
  (∀ window,
    (Work.openSearcher path window).run workspace =
      (.error (.writerBlocksSearch path.text), workspace))

/-- Both a writer and a searcher of the index open. -/
def IsFree (workspace : Workspace) (path : Path) : Prop :=
  (∀ fresh, ∃ opened,
    (Work.openWriter path fresh).run workspace = (.ok (), opened)) ∧
  (∀ window, ∃ opened,
    (Work.openSearcher path window).run workspace = (.ok (), opened))

variable {workspace : Workspace} {path : Path} {writing next : Writing}

theorem Writes.configAt (writes : workspace.Writes path writing) :
    workspace.configAt path = writing.config := by
  rcases writes.inUse with ⟨handle, known, config, -⟩
  simp [Workspace.configAt, known, config]

theorem Writes.pendingAt (writes : workspace.Writes path writing) :
    workspace.pendingAt path = writing.pending := by
  rcases writes.inUse with ⟨handle, known, -, pending, -⟩
  simp [Workspace.pendingAt, known, pending]

theorem Writes.documentsAt (writes : workspace.Writes path writing) :
    workspace.tree.documentsAt path = writing.store.documentList :=
  FileTree.documentsAt_of_find? writes.found

theorem Rests.documentsAt {store : Store}
    (rests : workspace.Rests path store) :
    workspace.tree.documentsAt path = store.documentList :=
  FileTree.documentsAt_of_find? rests.found

/-! ## Steps of a session -/

theorem Writes.run_writing (writes : workspace.Writes path writing) :
    (Work.writing path).run workspace = (.ok writing, workspace) := by
  rcases writes.inUse with ⟨handle, known, config, pending, file⟩
  unfold Work.writing
  rw [run_bind_of_ok (Work.run_handle known)]
  simp only [pending, file, Bool.false_eq_true, if_false]
  rw [run_bind_of_ok Work.run_get,
    FileTree.storeOrEmpty_of_find? writes.found,
    run_bind_of_ok (run_lift _), config]
  rfl

/-- What a writer has stored goes to the file of its index. -/
theorem run_saveStore {handle : Handle} (store : Store)
    (known : workspace.handles.lookup path = some handle)
    (file : handle.hasLostFile = false) :
    (Work.saveStore path store).run workspace =
      (.ok (), { workspace with tree := workspace.tree.putStore path store }) := by
  unfold Work.saveStore
  rw [run_bind_of_ok (Work.run_handle known)]
  simp only [file, Bool.false_eq_true, if_false]
  rfl

theorem Writes.run_setWriting
    (writes : workspace.Writes path writing)
    (config : next.config = writing.config) :
    ∃ after,
      (Work.setWriting path next).run workspace = (.ok (), after) ∧
      after.Writes path next := by
  rcases writes.inUse with ⟨handle, known, same, -, file⟩
  let changed : Handle :=
    { handle with pending := some next.pending, hasLostFile := false }
  let between : Workspace := { workspace with
    handles := (path, changed) :: workspace.handles.filter (·.1 != path) }
  have changes : between.handles.lookup path = some changed :=
    List.lookup_cons_self
  refine ⟨{ between with tree := between.tree.putStore path next.store }, ?_, ?_⟩
  · unfold Work.setWriting
    rw [run_bind_of_ok (Work.run_handle known)]
    simp only [file, Bool.false_eq_true, if_false, List.nil_append]
    rw [run_bind_of_ok (Work.run_setHandle path changed)]
    exact run_saveStore next.store changes rfl
  · exact {
      inUse := ⟨changed, changes, same.trans config.symm, rfl, rfl⟩
      found := FileTree.find?_putStore_of_find? writes.found next.store }

theorem Writes.run_count (writes : workspace.Writes path writing) :
    (Work.count path).run workspace =
      (.ok writing.store.count, workspace) := by
  rcases writes.inUse with ⟨handle, known, -⟩
  unfold Work.count
  rw [run_bind_of_ok (Work.run_handle known),
    run_bind_of_ok Work.run_get, FileTree.documentCount,
    FileTree.store?_of_find? writes.found]
  rfl

/-- A call of an open writer never fails. -/
theorem Writes.run_perform
    (writes : workspace.Writes path writing) (call : WriterCall) :
    ∃ after,
      (call.perform path).run workspace = (.ok (), after) ∧
      after.Writes path (call.run writing) := by
  rcases writes.run_setWriting (Writing.run_config call) with
    ⟨after, stored, afterWrites⟩
  have counts := afterWrites.run_count
  refine ⟨after, ?_, afterWrites⟩
  cases call with
  | add document =>
      have adds : (Work.add path document).run workspace =
          (.ok (writing.add document).store.count, after) := by
        unfold Work.add
        rw [run_bind_of_ok writes.run_writing]
        exact (run_bind_of_ok stored).trans counts
      exact run_bind_of_ok adds
  | flush =>
      have flushes : (Work.flush path).run workspace =
          (.ok writing.flush.store.count, after) := by
        unfold Work.flush
        rw [run_bind_of_ok writes.run_writing]
        exact (run_bind_of_ok stored).trans counts
      exact run_bind_of_ok flushes
  | write host entries =>
      have written : (Work.write path host entries).run workspace =
          (.ok (writing.write host entries).2, after) := by
        unfold Work.write
        rw [run_bind_of_ok writes.run_writing]
        exact run_bind_of_ok stored
      exact run_bind_of_ok written
  | brokenWrite host entries =>
      unfold WriterCall.perform
      rw [run_bind_of_ok writes.run_writing]
      exact stored

/-- Calls of an open writer never fail. -/
theorem Writes.run_performAll (calls : List WriterCall) :
    ∀ {workspace : Workspace} {writing : Writing},
      workspace.Writes path writing →
      ∃ after,
        (WriterCall.performAll path calls).run workspace = (.ok (), after) ∧
        after.Writes path (WriterCall.runAll writing calls) := by
  induction calls with
  | nil =>
      intro workspace writing writes
      exact ⟨workspace, rfl, writes⟩
  | cons call calls ih =>
      intro workspace writing writes
      rcases writes.run_perform call with ⟨between, performed, betweenWrites⟩
      rcases ih betweenWrites with ⟨after, others, afterWrites⟩
      refine ⟨after, ?_, afterWrites⟩
      rw [WriterCall.performAll, run_bind_of_ok performed]
      exact others

/-! ## Opening -/

/-- An open writer keeps the index to itself. -/
theorem Writes.isLocked (writes : workspace.Writes path writing) :
    workspace.IsLocked path := by
  rcases writes.inUse with ⟨handle, known, -, pending, -⟩
  constructor
  · intro fresh
    unfold Work.openWriter
    rw [run_bind_of_ok (Work.run_handle known)]
    simp only [pending, Option.isSome_some, if_true]
    rfl
  · intro window
    unfold Work.openSearcher
    rw [run_bind_of_ok (Work.run_handle known)]
    simp only [pending, Option.isSome_some, if_true]
    rfl

/-- A writer that opens begins with the index that its path points to once the
directory of the path is made. -/
theorem writes_of_openWriter {fresh : Bool} {opened : Workspace}
    (opens : (Work.openWriter path fresh).run workspace = (.ok (), opened)) :
    ∃ ready config store,
      workspace.tree.makeDirectory path.parent = .ok ready ∧
      ready.storeOrEmpty path = .ok store ∧
      opened.Writes path (Writing.start config store fresh) := by
  unfold Work.openWriter at opens
  rcases run_bind_eq_ok.mp opens with ⟨handle, between, asked, opens⟩
  rcases Work.run_handle_eq_ok asked with ⟨known, sameTree⟩
  cases pending : handle.pending with
  | some documents =>
      simp only [pending, Option.isSome_some, if_true] at opens
      cases opens
  | none =>
      simp only [pending, Option.isSome_none, Bool.false_eq_true, if_false]
        at opens
      rw [run_bind_of_ok Work.run_get] at opens
      rcases run_bind_eq_ok.mp opens with
        ⟨⟨started, begun⟩, still, starts, opens⟩
      rcases run_lift_eq_ok.mp starts with ⟨starts, rfl⟩
      rcases FileTree.startWriting_eq_ok starts with
        ⟨ready, store, made, empty, rfl, rfl⟩
      rcases FileTree.locate_of_storeOrEmpty empty with
        ⟨location, place, noDirectory⟩
      simp only at opens
      rw [run_bind_of_ok (Work.run_setTree _), Work.run_setHandle] at opens
      cases opens
      refine ⟨ready, handle.config, store, sameTree ▸ made, empty, ?_⟩
      exact {
        inUse := ⟨_, List.lookup_cons_self, rfl, rfl, rfl⟩
        found := FileTree.find?_putStore place noDirectory _ }

/-- An index whose writer is not open can be opened. -/
theorem Rests.isFree {store : Store} (rests : workspace.Rests path store) :
    workspace.IsFree path := by
  rcases rests.inUse with ⟨handle, known, closed⟩
  constructor
  · intro fresh
    unfold Work.openWriter
    rw [run_bind_of_ok (Work.run_handle known)]
    simp only [closed, Option.isSome_none, Bool.false_eq_true, if_false]
    rw [run_bind_of_ok Work.run_get,
      FileTree.startWriting_of_find? rests.found]
    exact ⟨_, rfl⟩
  · intro window
    have isFile : workspace.tree.isFile path = true := by
      simp [FileTree.isFile, rests.found]
    unfold Work.openSearcher
    rw [run_bind_of_ok (Work.run_handle known)]
    simp only [closed, Option.isSome_none, Bool.false_eq_true, if_false]
    rw [run_bind_of_ok Work.run_get]
    simp only [isFile, if_true]
    exact ⟨_, rfl⟩

/-! ## Leaving -/

theorem Writes.run_endWriting
    (writes : workspace.Writes path writing) (store : Store) :
    ∃ after,
      (Work.endWriting path store).run workspace = (.ok (), after) ∧
      after.Rests path store := by
  rcases writes.inUse with ⟨handle, known, -, -, file⟩
  let closed : Handle :=
    { handle with pending := none, hasLostFile := false }
  let between : Workspace := { workspace with
    handles := (path, closed) :: workspace.handles.filter (·.1 != path) }
  have closes : between.handles.lookup path = some closed :=
    List.lookup_cons_self
  refine ⟨{ between with tree := between.tree.putStore path store }, ?_, ?_⟩
  · unfold Work.endWriting
    rw [run_bind_of_ok (Work.run_handle known), file,
      run_bind_of_ok (Work.run_setHandle path closed)]
    exact run_saveStore store closes rfl
  · exact {
      inUse := ⟨closed, closes, rfl⟩
      found := FileTree.find?_putStore_of_find? writes.found store }

/-- Closing a writer stores its batch. -/
theorem Writes.run_closeWriter (writes : workspace.Writes path writing) :
    ∃ after,
      (Work.closeWriter path).run workspace = (.ok (), after) ∧
      after.Rests path writing.close := by
  unfold Work.closeWriter
  rw [run_bind_of_ok writes.run_writing]
  exact writes.run_endWriting writing.close

/-- Breaking off a writer loses its batch. -/
theorem Writes.run_abortWriter (writes : workspace.Writes path writing) :
    ∃ after,
      (Work.abortWriter path).run workspace = (.ok (), after) ∧
      after.Rests path writing.abort := by
  unfold Work.abortWriter
  rw [run_bind_of_ok writes.run_writing]
  exact writes.run_endWriting writing.abort

/-! ## Whole sessions -/

/-- A session that is left in the usual way leaves what was there, followed by
what the writer has accepted. -/
theorem session_closed {fresh : Bool} {opened : Workspace} {ready : FileTree}
    (made : workspace.tree.makeDirectory path.parent = .ok ready)
    (opens : (Work.openWriter path fresh).run workspace = (.ok (), opened))
    (calls : List WriterCall) :
    ∃ during closed,
      (WriterCall.performAll path calls).run opened = (.ok (), during) ∧
      (Work.closeWriter path).run during = (.ok (), closed) ∧
      closed.tree.documentsAt path =
        (if fresh then [] else ready.documentsAt path) ++
          WriterCall.accepted (opened.configAt path) calls := by
  rcases writes_of_openWriter opens with
    ⟨found, config, store, made', empty, writes⟩
  obtain rfl : found = ready := Except.ok.inj (made'.symm.trans made)
  rcases writes.run_performAll calls with ⟨during, performed, afterWrites⟩
  rcases afterWrites.run_closeWriter with ⟨closed, closes, rests⟩
  rcases (Writing.holds_start config store fresh).runAll calls with
    ⟨committed, -, holds⟩
  refine ⟨during, closed, performed, closes, ?_⟩
  rw [rests.documentsAt, Writing.close, holds.flush.documentList,
    FileTree.documentsAt_of_storeOrEmpty empty, writes.configAt]
  rfl

/--
A session of an open writer, whatever calls are made in it.  At its end what is
stored since it began, followed by what waits for its batch, is what the writer
has accepted, and less than a batch waits; the index cannot be opened once more.
Closing the writer stores everything accepted, whatever the size of the batches;
breaking it off keeps what is stored, which includes every write that has
returned.  Either way the index can be opened again.
-/
theorem writer_session
    {path : Path}
    {fresh : Bool}
    {before opened : Workspace}
    (opens : (Work.openWriter path fresh).run before = (.ok (), opened))
    (calls : List WriterCall) :
    ∃ ready present accepted committed during closed aborted,
      before.tree.makeDirectory path.parent = .ok ready ∧
      ((before.tree.find? path).isSome → ready = before.tree) ∧
      present = (if fresh then [] else ready.documentsAt path) ∧
      accepted = WriterCall.accepted (opened.configAt path) calls ∧
      -- The session.
      (WriterCall.performAll path calls).run opened = (.ok (), during) ∧
      during.tree.documentsAt path = present ++ committed ∧
      committed ++ during.pendingAt path = accepted ∧
      (during.pendingAt path).length <
        max 1 (opened.configAt path).batchSize ∧
      during.IsLocked path ∧
      -- The usual way out of it.
      (Work.closeWriter path).run during = (.ok (), closed) ∧
      closed.tree.documentsAt path = present ++ accepted ∧
      closed.IsFree path ∧
      (∀ other otherOpened,
        other.tree = before.tree →
        (Work.openWriter path fresh).run other = (.ok (), otherOpened) →
        (otherOpened.configAt path).noiseMarkers =
          (opened.configAt path).noiseMarkers →
        ∃ otherDuring otherClosed,
          (WriterCall.performAll path calls).run otherOpened =
            (.ok (), otherDuring) ∧
          (Work.closeWriter path).run otherDuring = (.ok (), otherClosed) ∧
          otherClosed.tree.documentsAt path =
            closed.tree.documentsAt path) ∧
      -- The way out by a failure.
      (Work.abortWriter path).run during = (.ok (), aborted) ∧
      aborted.tree.documentsAt path = present ++ committed ∧
      aborted.IsFree path ∧
      (∀ earlier host entries later,
        calls = earlier ++ .write host entries :: later →
        WriterCall.accepted (opened.configAt path)
            (earlier ++ [.write host entries]) <+:
          committed) := by
  rcases writes_of_openWriter opens with
    ⟨ready, config, store, made, empty, writes⟩
  rcases writes.run_performAll calls with ⟨during, performed, afterWrites⟩
  rcases afterWrites.run_closeWriter with ⟨closed, closes, closedRests⟩
  rcases afterWrites.run_abortWriter with ⟨aborted, aborts, abortedRests⟩
  have begins := Writing.holds_start config store fresh
  rw [← FileTree.documentsAt_of_storeOrEmpty empty] at begins
  rcases begins.runAll calls with ⟨committed, -, holds⟩
  have settings : opened.configAt path = config := writes.configAt
  have bounded := holds.bounded
  rw [Writing.runAll_config] at bounded
  have whole :
      closed.tree.documentsAt path =
        (if fresh then [] else ready.documentsAt path) ++
          WriterCall.accepted config calls := by
    rw [closedRests.documentsAt]
    exact holds.flush.documentList
  rw [settings]
  refine ⟨ready, _, _, committed, during, closed, aborted, made, ?_, rfl, rfl,
    performed, ?_, ?_, ?_, afterWrites.isLocked, closes, whole,
    closedRests.isFree, ?_, aborts, ?_, abortedRests.isFree, ?_⟩
  · intro found
    rcases Option.isSome_iff_exists.mp found with ⟨node, there⟩
    exact Except.ok.inj
      (made.symm.trans (FileTree.makeDirectory_parent there))
  · rw [afterWrites.documentsAt]
    exact holds.documentList
  · rw [afterWrites.pendingAt]
    exact holds.complete
  · rw [afterWrites.pendingAt]
    exact bounded
  · intro other otherOpened sameTree otherOpens sameMarkers
    rw [← sameTree] at made
    rcases session_closed made otherOpens calls with
      ⟨otherDuring, otherClosed, otherPerformed, otherCloses, otherWhole⟩
    refine ⟨otherDuring, otherClosed, otherPerformed, otherCloses, ?_⟩
    rw [otherWhole, whole, WriterCall.accepted_congr sameMarkers]
  · rw [abortedRests.documentsAt]
    exact holds.documentList
  · rintro earlier host entries later rfl
    exact begins.prefix_of_write holds

/-! ## Small batches -/

namespace SmallBatches

def index : Path where
  anchor := .current
  names := ["logs.db"]

def stored : Document :=
  ⟨"a", "WARN", "stored before", "20191231000000"⟩

def first : Document :=
  ⟨"a", "INFO", "first", "20200101000000"⟩

def second : Document :=
  ⟨"a", "INFO", "second", "20200102000000"⟩

def third : Document :=
  ⟨"b", "ERROR", "third", "20200103000000"⟩

def fourth : Document :=
  ⟨"a", "INFO", "fourth", "20200104000000"⟩

def fifth : Document :=
  ⟨"a", "INFO", "fifth", "20200105000000"⟩

/-- A workspace with an index, whose documents are stored two at a time. -/
def before : Workspace where
  tree := { nodes := [(["logs.db"], .index { documents := some [stored] })] }
  settings := { batchSize := 2 }

def opened : Workspace := { before with
  handles := [(index, { config := { batchSize := 2 }, pending := some [] })] }

/-- The first batch is full; noise and an entry without a date are written with
the third document, and the last document waits for its batch. -/
def calls : List WriterCall := [
  .add first, .add second,
  .write "b" [third.entry,
    { third.entry with message := some "StatusLogger.java:1 - noise" },
    { third.entry with timestamp := "" }],
  .add fourth, .flush, .add fifth]

theorem opens : (Work.openWriter index false).run before = (.ok (), opened) :=
  rfl

theorem accepted :
    WriterCall.accepted (opened.configAt index) calls =
      [first, second, third, fourth, fifth] := by
  decide +kernel

theorem pending :
    ((WriterCall.performAll index calls).run opened).2.pendingAt index =
      [fifth] := by
  decide +kernel

end SmallBatches

open SmallBatches in
theorem writer_session_smallBatches :
    (Work.openWriter index false).run before = (.ok (), opened) ∧
    ∃ during closed aborted,
      (WriterCall.performAll index calls).run opened = (.ok (), during) ∧
      during.tree.documentsAt index = [stored, first, second, third, fourth] ∧
      during.pendingAt index = [fifth] ∧
      during.IsLocked index ∧
      (Work.closeWriter index).run during = (.ok (), closed) ∧
      closed.tree.documentsAt index =
        [stored, first, second, third, fourth, fifth] ∧
      closed.IsFree index ∧
      (Work.abortWriter index).run during = (.ok (), aborted) ∧
      aborted.tree.documentsAt index =
        [stored, first, second, third, fourth] ∧
      aborted.IsFree index := by
  obtain ⟨ready, present, all, committed, during, closed, aborted, made, -,
    there, whole, performed, kept, complete, -, locked, closes, closedWhole,
    closedFree, -, aborts, abortedKept, abortedFree, -⟩ :=
    writer_session opens calls
  obtain rfl : ready = before.tree := (Except.ok.inj made).symm
  have waits := pending
  rw [performed] at waits
  rw [waits, whole, accepted] at complete
  have split : committed ++ [fifth] =
      [first, second, third, fourth] ++ [fifth] := complete
  obtain rfl := List.append_cancel_right split
  refine ⟨opens, during, closed, aborted, performed, ?_, waits, locked, closes,
    ?_, closedFree, aborts, ?_, abortedFree⟩
  · rw [kept, there]
    rfl
  · rw [closedWhole, there, whole, accepted]
    rfl
  · rw [abortedKept, there]
    rfl

end Workspace

end ClusterLog
