import ClusterLog.Index.Writing

/-!
# Batches of documents

What a writer has stored since it was opened, followed by what waits for its
batch, is what it has accepted, whatever the size of its batches.  Entries go
through a writer one by one, so that this also holds in the middle of a write.
-/

namespace ClusterLog

/-! ## Accepted documents -/

/-- The document that a class of entries stands for. -/
def EntryClass.document? : EntryClass → Option Document
  | .document stored => some stored
  | _ => none

/-- The documents that a write makes of the entries of a host. -/
def IndexConfig.documentsOf (config : IndexConfig) (host : String)
    (entries : List Entry) : List Document :=
  entries.filterMap fun entry => (config.classify host entry).document?

/-- The class of an entry depends on the texts that mark noise only. -/
theorem IndexConfig.classify_congr {config other : IndexConfig}
    (markers : config.noiseMarkers = other.noiseMarkers)
    (host : String) (entry : Entry) :
    config.classify host entry = other.classify host entry := by
  have noise : config.isNoise = other.isNoise := by
    funext message
    simp only [isNoise, markers]
  unfold classify
  rw [noise]

theorem IndexConfig.documentsOf_congr {config other : IndexConfig}
    (markers : config.noiseMarkers = other.noiseMarkers) :
    config.documentsOf = other.documentsOf := by
  funext host entries
  simp only [documentsOf, classify_congr markers]

/-- The call of a writer. -/
inductive WriterCall where
  | add (document : Document)
  | flush
  | write (host : String) (entries : List Entry)
  /-- A write that breaks off behind these entries, because there is no way to
  get at the next one. -/
  | brokenWrite (host : String) (entries : List Entry)

namespace WriterCall

/-- What a call makes of an index under a writer. -/
def run (writing : Writing) : WriterCall → Writing
  | .add document => writing.add document
  | .flush => writing.flush
  | .write host entries => (writing.write host entries).1
  | .brokenWrite host entries =>
    (entries.foldl (Writing.writeEntry host) (writing, {})).1

/-- What calls, one after the other, make of an index under a writer. -/
def runAll (writing : Writing) (calls : List WriterCall) : Writing :=
  calls.foldl run writing

/-- The documents that a call hands to a writer with given settings. -/
def documents (config : IndexConfig) : WriterCall → List Document
  | .add document => [document]
  | .flush => []
  | .write host entries => config.documentsOf host entries
  | .brokenWrite host entries => config.documentsOf host entries

/-- The documents that calls hand to a writer, in the order of the calls. -/
def accepted (config : IndexConfig) (calls : List WriterCall) : List Document :=
  calls.flatMap (documents config)

@[simp]
theorem accepted_append (config : IndexConfig)
    (calls others : List WriterCall) :
    accepted config (calls ++ others) =
      accepted config calls ++ accepted config others := by
  simp [accepted]

@[simp]
theorem accepted_cons (config : IndexConfig)
    (call : WriterCall) (calls : List WriterCall) :
    accepted config (call :: calls) =
      call.documents config ++ accepted config calls := by
  simp [accepted]

theorem accepted_congr {config other : IndexConfig}
    (markers : config.noiseMarkers = other.noiseMarkers) :
    accepted config = accepted other := by
  funext calls
  apply congrArg (calls.flatMap ·)
  funext call
  cases call <;>
    simp only [documents, IndexConfig.documentsOf_congr markers]

end WriterCall

/-! ## What no call changes -/

namespace Writing

variable {writing : Writing}

/-- The settings and the saved ranges of an index under a writer. -/
def frame (writing : Writing) : IndexConfig × Option (List SavedRange) :=
  (writing.config, writing.store.ranges)

theorem add_frame (document : Document) :
    (writing.add document).frame = writing.frame := by
  simp only [add]
  split <;> rfl

theorem writeEntry_frame (host : String)
    (state : Writing × WriteStatistics) (entry : Entry) :
    (writeEntry host state entry).1.frame = state.1.frame := by
  simp only [writeEntry]
  split
  · exact add_frame _
  · rfl

theorem foldl_writeEntry_frame (host : String) (entries : List Entry)
    (state : Writing × WriteStatistics) :
    (entries.foldl (Writing.writeEntry host) state).1.frame =
      state.1.frame := by
  induction entries generalizing state with
  | nil => rfl
  | cons entry entries ih =>
      rw [List.foldl_cons, ih, writeEntry_frame]

theorem run_frame (call : WriterCall) :
    (call.run writing).frame = writing.frame := by
  cases call with
  | add document => exact add_frame document
  | flush => rfl
  | write host entries => exact foldl_writeEntry_frame host entries _
  | brokenWrite host entries => exact foldl_writeEntry_frame host entries _

theorem runAll_frame (calls : List WriterCall) :
    (WriterCall.runAll writing calls).frame = writing.frame := by
  induction calls generalizing writing with
  | nil => rfl
  | cons call calls ih =>
      exact ih.trans (run_frame call)

theorem writeEntry_config (host : String)
    (state : Writing × WriteStatistics) (entry : Entry) :
    (writeEntry host state entry).1.config = state.1.config :=
  congrArg Prod.fst (writeEntry_frame host state entry)

theorem run_config (call : WriterCall) :
    (call.run writing).config = writing.config :=
  congrArg Prod.fst (run_frame call)

theorem runAll_config (calls : List WriterCall) :
    (WriterCall.runAll writing calls).config = writing.config :=
  congrArg Prod.fst (runAll_frame calls)

theorem runAll_ranges (calls : List WriterCall) :
    (WriterCall.runAll writing calls).store.ranges = writing.store.ranges :=
  congrArg Prod.snd (runAll_frame calls)

/-! ## What is held -/

/-- The documents of an index under a writer: the stored ones, and behind them
those that wait for their batch. -/
def held (writing : Writing) : List Document :=
  writing.store.documentList ++ writing.pending

theorem held_flush : writing.flush.held = writing.held := by
  simp [held, flush, Store.append, Store.documentList]

theorem held_add (document : Document) :
    (writing.add document).held = writing.held ++ [document] := by
  have joined : { writing with
      pending := writing.pending ++ [document] }.held =
        writing.held ++ [document] :=
    (List.append_assoc _ _ _).symm
  rw [add]
  dsimp only
  split
  · rw [held_flush, joined]
  · exact joined

theorem held_writeEntry (host : String)
    (state : Writing × WriteStatistics) (entry : Entry) :
    (writeEntry host state entry).1.held =
      state.1.held ++ state.1.config.documentsOf host [entry] := by
  rcases state with ⟨writing, statistics⟩
  simp only [writeEntry, IndexConfig.documentsOf]
  cases kind : writing.config.classify host entry with
  | document document => simp [kind, EntryClass.document?, held_add]
  | skipped | unreadable | noise => simp [kind, EntryClass.document?]

theorem held_foldl_writeEntry (host : String) (entries : List Entry)
    (state : Writing × WriteStatistics) :
    (entries.foldl (writeEntry host) state).1.held =
      state.1.held ++ state.1.config.documentsOf host entries := by
  induction entries generalizing state with
  | nil => simp [IndexConfig.documentsOf]
  | cons entry entries ih =>
      rw [List.foldl_cons, ih, held_writeEntry, writeEntry_config,
        List.append_assoc, IndexConfig.documentsOf, IndexConfig.documentsOf,
        IndexConfig.documentsOf, ← List.filterMap_append]
      rfl

/-- A call adds its documents to those of the index, whatever the size of the
batches and whatever waits for its batch. -/
theorem held_run (call : WriterCall) :
    (call.run writing).held =
      writing.held ++ call.documents writing.config := by
  cases call with
  | add document => exact held_add document
  | flush => simpa [WriterCall.run, WriterCall.documents] using held_flush
  | write host entries =>
      exact held_flush.trans (held_foldl_writeEntry host entries _)
  | brokenWrite host entries => exact held_foldl_writeEntry host entries _

theorem held_runAll (calls : List WriterCall) :
    (WriterCall.runAll writing calls).held =
      writing.held ++ WriterCall.accepted writing.config calls := by
  induction calls generalizing writing with
  | nil => simp [WriterCall.runAll, WriterCall.accepted]
  | cons call calls ih =>
      have others := @ih (call.run writing)
      rw [held_run, run_config, List.append_assoc,
        ← WriterCall.accepted_cons] at others
      exact others

end Writing

/-! ## The invariant -/

/--
A writer that began on given documents has accepted others: it has stored a
first part of them behind those that were there, and the rest, less than a
batch, waits.
-/
structure Writing.Holds
    (writing : Writing)
    (present committed accepted : List Document) : Prop where
  stored : writing.store.documents = some (present ++ committed)
  complete : committed ++ writing.pending = accepted
  bounded : writing.pending.length < max 1 writing.config.batchSize

namespace Writing

variable {writing : Writing}
variable {present committed accepted : List Document}

theorem Holds.documentList
    (holds : writing.Holds present committed accepted) :
    writing.store.documentList = present ++ committed := by
  simp [Store.documentList, holds.stored]

/-- A writer starts with nothing accepted. -/
theorem holds_start (config : IndexConfig) (store : Store) (fresh : Bool) :
    (start config store fresh).Holds
      (if fresh then [] else store.documentList) [] [] where
  stored := by
    cases fresh <;> simp [start, Store.prepare]
  complete := rfl
  bounded := by
    simp only [start, List.length_nil]
    omega

/-- When the batch is stored, everything accepted is. -/
theorem Holds.flush
    (holds : writing.Holds present committed accepted) :
    writing.flush.Holds present accepted accepted where
  stored := by
    have complete := holds.complete
    simp [Writing.flush, Store.append, holds.documentList, ← complete]
  complete := by simp [Writing.flush]
  bounded := by
    simp only [Writing.flush, List.length_nil]
    omega

/-- A document joins the batch, which is stored once it is full. -/
theorem Holds.add
    (holds : writing.Holds present committed accepted)
    (document : Document) :
    ∃ grown,
      committed <+: grown ∧
      (writing.add document).Holds present grown (accepted ++ [document]) := by
  have complete :
      committed ++ (writing.pending ++ [document]) =
        accepted ++ [document] := by
    rw [← List.append_assoc, holds.complete]
  by_cases full :
      writing.config.batchSize ≤
        ((writing.pending ++ [document]).length : Int)
  · refine ⟨accepted ++ [document], ⟨_, complete⟩, ?_⟩
    rw [Writing.add, if_pos full]
    exact {
      stored := by
        simp [Writing.flush, Store.append, holds.documentList, ← complete]
      complete := by simp [Writing.flush]
      bounded := by
        simp only [Writing.flush, List.length_nil]
        omega }
  · refine ⟨committed, List.prefix_rfl, ?_⟩
    rw [Writing.add, if_neg full]
    exact {
      stored := holds.stored
      complete := complete
      bounded := by
        simp only
        omega }

/-- An entry adds its document, if it has one. -/
theorem Holds.writeEntry
    (holds : writing.Holds present committed accepted)
    (host : String) (statistics : WriteStatistics) (entry : Entry) :
    ∃ grown,
      committed <+: grown ∧
      (Writing.writeEntry host (writing, statistics) entry).1.Holds present
        grown
        (accepted ++ writing.config.documentsOf host [entry]) := by
  simp only [Writing.writeEntry, IndexConfig.documentsOf]
  cases kind : writing.config.classify host entry with
  | document document =>
      simpa [kind, EntryClass.document?] using holds.add document
  | skipped | unreadable | noise =>
      refine ⟨committed, List.prefix_rfl, ?_⟩
      simpa [kind, EntryClass.document?] using holds

/-- Entries add their documents one after the other. -/
theorem Holds.foldl_writeEntry (host : String) (entries : List Entry) :
    ∀ {writing : Writing} {committed accepted : List Document}
      (statistics : WriteStatistics),
      writing.Holds present committed accepted →
      ∃ grown,
        committed <+: grown ∧
        (entries.foldl (Writing.writeEntry host)
            (writing, statistics)).1.Holds present
          grown
          (accepted ++ writing.config.documentsOf host entries) := by
  induction entries with
  | nil =>
      intro writing committed accepted statistics holds
      refine ⟨committed, List.prefix_rfl, ?_⟩
      simpa [IndexConfig.documentsOf] using holds
  | cons entry entries ih =>
      intro writing committed accepted statistics holds
      rcases holds.writeEntry host statistics entry with
        ⟨once, first, afterFirst⟩
      obtain ⟨grown, others, afterAll⟩ :=
        ih (Writing.writeEntry host (writing, statistics) entry).2 afterFirst
      refine ⟨grown, first.trans others, ?_⟩
      have together :
          accepted ++ writing.config.documentsOf host [entry] ++
              writing.config.documentsOf host entries =
            accepted ++ writing.config.documentsOf host (entry :: entries) := by
        rw [List.append_assoc, IndexConfig.documentsOf, IndexConfig.documentsOf,
          IndexConfig.documentsOf, ← List.filterMap_append]
        rfl
      rw [writeEntry_config, together] at afterAll
      exact afterAll

/-- What a call does: the writer accepts the documents of the call and stores
no less than before. -/
theorem Holds.run
    (holds : writing.Holds present committed accepted)
    (call : WriterCall) :
    ∃ grown,
      committed <+: grown ∧
      (call.run writing).Holds present grown
        (accepted ++ call.documents writing.config) := by
  cases call with
  | add document => exact holds.add document
  | flush =>
      refine ⟨accepted, ⟨_, holds.complete⟩, ?_⟩
      simpa [WriterCall.run, WriterCall.documents] using holds.flush
  | write host entries =>
      rcases holds.foldl_writeEntry host entries {} with ⟨grown, kept, within⟩
      exact ⟨_, kept.trans ⟨_, within.complete⟩, within.flush⟩
  | brokenWrite host entries => exact holds.foldl_writeEntry host entries {}

/-- The documents of a write that has returned are stored. -/
theorem Holds.run_write
    (holds : writing.Holds present committed accepted)
    (host : String) (entries : List Entry) :
    ((WriterCall.write host entries).run writing).Holds present
      (accepted ++ writing.config.documentsOf host entries)
      (accepted ++ writing.config.documentsOf host entries) := by
  rcases holds.foldl_writeEntry host entries {} with ⟨grown, -, within⟩
  exact within.flush

/-- Calls one after the other add their documents in the order of the calls. -/
theorem Holds.runAll (calls : List WriterCall) :
    ∀ {writing : Writing} {committed accepted : List Document},
      writing.Holds present committed accepted →
      ∃ grown,
        committed <+: grown ∧
        (WriterCall.runAll writing calls).Holds present grown
          (accepted ++ WriterCall.accepted writing.config calls) := by
  induction calls with
  | nil =>
      intro writing committed accepted holds
      refine ⟨committed, List.prefix_rfl, ?_⟩
      simpa [WriterCall.runAll, WriterCall.accepted] using holds
  | cons call calls ih =>
      intro writing committed accepted holds
      rcases holds.run call with ⟨once, first, afterFirst⟩
      rcases ih afterFirst with ⟨grown, others, afterAll⟩
      rw [run_config, List.append_assoc, ← WriterCall.accepted_cons]
        at afterAll
      exact ⟨grown, first.trans others, afterAll⟩

/-- Where every call is a write that returns, everything accepted is stored. -/
theorem Holds.runAll_writes {calls : List WriterCall}
    (writes : ∀ call ∈ calls, ∃ host entries, call = .write host entries) :
    ∀ {writing : Writing} {accepted : List Document},
      writing.Holds present accepted accepted →
      (WriterCall.runAll writing calls).Holds present
        (accepted ++ WriterCall.accepted writing.config calls)
        (accepted ++ WriterCall.accepted writing.config calls) := by
  induction calls with
  | nil =>
      intro writing accepted holds
      simpa [WriterCall.runAll, WriterCall.accepted] using holds
  | cons call calls ih =>
      intro writing accepted holds
      rcases writes call List.mem_cons_self with ⟨host, entries, rfl⟩
      have others := ih
        (fun other member => writes other (List.mem_cons_of_mem _ member))
        (holds.run_write host entries)
      rw [run_config, List.append_assoc] at others
      rw [WriterCall.accepted_cons]
      exact others

/-- What is stored of the accepted documents is determined. -/
theorem Holds.committed_unique {other : List Document}
    (holds : writing.Holds present committed accepted)
    (holdsToo : writing.Holds present other accepted) :
    committed = other := by
  have same := holds.stored.symm.trans holdsToo.stored
  exact List.append_cancel_left (Option.some.inj same)

/-- Once a write has returned, its documents and all before them stay
stored. -/
theorem Holds.prefix_of_write
    (holds : writing.Holds present [] [])
    {earlier later : List WriterCall} {host : String} {entries : List Entry}
    (after :
      (WriterCall.runAll writing
        (earlier ++ .write host entries :: later)).Holds present committed
          (WriterCall.accepted writing.config
            (earlier ++ .write host entries :: later))) :
    WriterCall.accepted writing.config (earlier ++ [.write host entries]) <+:
      committed := by
  rcases holds.runAll earlier with ⟨_, -, afterEarlier⟩
  have afterWrite := afterEarlier.run_write host entries
  rcases afterWrite.runAll later with ⟨grown, kept, afterLater⟩
  have written :
      [] ++ WriterCall.accepted writing.config earlier ++
          (WriterCall.runAll writing earlier).config.documentsOf host entries =
        WriterCall.accepted writing.config
          (earlier ++ [.write host entries]) := by
    rw [runAll_config]
    simp [WriterCall.accepted, WriterCall.documents]
  rw [written] at kept afterLater
  have everything :
      WriterCall.accepted writing.config (earlier ++ [.write host entries]) ++
          WriterCall.accepted
            ((WriterCall.write host entries).run
              (WriterCall.runAll writing earlier)).config later =
        WriterCall.accepted writing.config
          (earlier ++ .write host entries :: later) := by
    rw [run_config, runAll_config, ← WriterCall.accepted_append]
    simp
  rw [everything] at afterLater
  have same :
      WriterCall.runAll writing (earlier ++ .write host entries :: later) =
        WriterCall.runAll
          ((WriterCall.write host entries).run
            (WriterCall.runAll writing earlier)) later := by
    simp [WriterCall.runAll]
  rw [same] at after
  rw [after.committed_unique afterLater]
  exact kept

end Writing

end ClusterLog
