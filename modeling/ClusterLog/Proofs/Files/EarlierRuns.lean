import ClusterLog.Ingest.Cluster
import ClusterLog.Proofs.Computation
import ClusterLog.Proofs.Files.Location

/-!
# Files after earlier runs

Runs on an index make the directory of its file and leave some contents in the
file; all other files stay as they are.  Emptying the index therefore leads to
the same files, whatever earlier runs have left.
-/

namespace ClusterLog.FileTree

variable {tree made left : FileTree} {path directory : Path}

/-! ## Directories that stay -/

/-- All directories of one tree are directories of another one. -/
structure KeepsDirectories (tree other : FileTree) : Prop where
  current : other.current = tree.current
  stay : ∀ location, tree.at? location = some .directory →
    other.at? location = some .directory

theorem KeepsDirectories.trans {other : FileTree}
    (first : tree.KeepsDirectories made) (second : made.KeepsDirectories other) :
    tree.KeepsDirectories other where
  current := second.current.trans first.current
  stay location there := second.stay location (first.stay location there)

theorem KeepsDirectories.follow (keeps : tree.KeepsDirectories made)
    {start location : Location} {names : List String}
    (leads : tree.follow start names = some location) :
    made.follow start names = some location := by
  induction names generalizing start with
  | nil => exact leads
  | cons name names ih =>
      rw [FileTree.follow] at leads ⊢
      split at leads
      · rename_i there
        rw [if_pos (keeps.stay start there)]
        exact ih leads
      · cases leads

/-- A path to a directory keeps leading to one. -/
theorem KeepsDirectories.isDirectory (keeps : tree.KeepsDirectories made)
    (there : tree.isDirectory directory = true) :
    made.isDirectory directory = true := by
  have found : tree.find? directory = some .directory := by
    simpa [FileTree.isDirectory] using there
  rcases Option.bind_eq_some_iff.mp found with ⟨location, place, stands⟩
  have whole := hasNull_of_locate place
  simp only [locate, whole, Bool.false_eq_true, if_false] at place
  have follows := keeps.follow place
  simp only [FileTree.isDirectory, find?, locate, whole, keeps.current,
    Bool.false_eq_true, if_false, follows, Option.bind_some,
    keeps.stay location stands, decide_true]

theorem keepsDirectories_makeBelow {start : Location} {names : List String}
    (makes : tree.makeBelow start names = .ok made) :
    tree.KeepsDirectories made := by
  induction names generalizing tree start with
  | nil =>
      cases makes
      exact ⟨rfl, fun _ there => there⟩
  | cons name names ih =>
      rw [makeBelow] at makes
      split at makes
      · exact ih makes
      · dsimp only at makes
        split at makes
        · exact ih makes
        · -- A directory is made where nothing stands.
          have keeps : tree.KeepsDirectories
              (tree.set (start ++ [name]) .directory) := by
            refine ⟨rfl, fun location there => ?_⟩
            rw [at?_set]
            split
            · rfl
            · split
              · rfl
              · exact there
          exact keeps.trans (ih makes)
        · cases makes

theorem keepsDirectories_makeDirectory
    (makes : tree.makeDirectory path = .ok made) :
    tree.KeepsDirectories made := by
  rw [makeDirectory] at makes
  split at makes
  · cases makes
  · exact keepsDirectories_makeBelow makes

theorem keepsDirectories_putStore {location : Location}
    (place : tree.locate path = some location)
    (noDirectory : tree.at? location ≠ some .directory) (store : Store) :
    tree.KeepsDirectories (tree.putStore path store) := by
  have isFile : Node.index store ≠ .directory := Node.noConfusion
  simp only [putStore, place]
  exact ⟨rfl, fun other there =>
    (at?_set_eq_directory_iff noDirectory isFile other).mpr there⟩

/-! ## Emptying an index -/

/-- The files once an index is emptied. -/
def emptied (tree : FileTree) (path : Path) : Except Failure FileTree :=
  (tree.startWriting path {} true).map Prod.fst

/-- A fresh start empties the index, whatever the settings are. -/
theorem startWriting_fresh (config : IndexConfig) :
    tree.startWriting path config true =
      (tree.emptied path).map fun started =>
        (started, { config, store := { documents := some [] } }) := by
  rw [emptied, startWriting, startWriting]
  cases tree.makeDirectory path.parent with
  | error failure => rfl
  | ok ready =>
      simp only [bind, Except.bind]
      cases ready.storeOrEmpty path <;> rfl

theorem emptied_eq_ok {started : FileTree}
    (empties : tree.emptied path = .ok started) :
    ∃ ready location,
      tree.makeDirectory path.parent = .ok ready ∧
      ready.locate path = some location ∧
      ready.at? location ≠ some .directory ∧
      started = ready.putStore path { documents := some [] } := by
  rw [emptied] at empties
  cases starts : tree.startWriting path {} true with
  | error failure =>
      rw [starts] at empties
      cases empties
  | ok begun =>
      rw [starts] at empties
      rcases begun with ⟨same, writing⟩
      cases empties
      rcases startWriting_eq_ok starts with ⟨ready, store, makes, opens, rfl, rfl⟩
      rcases locate_of_storeOrEmpty opens with ⟨location, place, noDirectory⟩
      exact ⟨ready, location, makes, place, noDirectory, rfl⟩

/-- The contents of an index are replaced as a whole. -/
theorem putStore_putStore {location : Location}
    (place : tree.locate path = some location)
    (noDirectory : tree.at? location ≠ some .directory) (store next : Store) :
    (tree.putStore path store).putStore path next = tree.putStore path next := by
  have stays := locate_set noDirectory
    (Node.noConfusion : Node.index store ≠ .directory) path
  simp only [putStore, place, stays]
  simp [set, List.filter_append]

/-! ## What earlier runs leave -/

/-- Files as runs on an index have left them: there was no run yet, or the
directory of the index is made and its file holds some store. -/
inductive LeftByRuns (tree : FileTree) (path : Path) : FileTree → Prop
  | untouched : LeftByRuns tree path tree
  | stored {started : FileTree} (empties : tree.emptied path = .ok started)
      (store : Store) : LeftByRuns tree path (started.putStore path store)

namespace LeftByRuns

theorem isDirectory (prior : tree.LeftByRuns path left)
    (there : tree.isDirectory directory = true) :
    left.isDirectory directory = true := by
  cases prior with
  | untouched => exact there
  | stored empties store =>
      rcases emptied_eq_ok empties with
        ⟨ready, location, makes, place, noDirectory, rfl⟩
      rw [putStore_putStore place noDirectory]
      have keeps := (keepsDirectories_makeDirectory makes).trans
        (keepsDirectories_putStore place noDirectory store)
      exact keeps.isDirectory there

/-- Emptying the index forgets what earlier runs have left in it. -/
theorem emptied_eq (prior : tree.LeftByRuns path left) :
    left.emptied path = tree.emptied path := by
  cases prior with
  | untouched => rfl
  | stored empties store =>
      rw [empties]
      rcases emptied_eq_ok empties with
        ⟨ready, location, makes, place, noDirectory, rfl⟩
      rw [putStore_putStore place noDirectory]
      have found := find?_putStore place noDirectory store
      rw [emptied, startWriting_of_find? found, Except.map,
        putStore_putStore place noDirectory]
      rfl

/-- What is stored in an index that can be opened is left by a run. -/
theorem putStore (prior : tree.LeftByRuns path left) {store : Store}
    (opens : left.storeOrEmpty path = .ok store) (next : Store) :
    tree.LeftByRuns path (left.putStore path next) := by
  cases prior with
  | untouched =>
      rcases locate_of_storeOrEmpty opens with ⟨location, place, noDirectory⟩
      have empties : tree.emptied path =
          .ok (tree.putStore path { documents := some [] }) := by
        rw [emptied, startWriting, makeDirectory_parent_of_locate place]
        simp only [bind, Except.bind, opens]
        rfl
      rw [← putStore_putStore place noDirectory { documents := some [] }]
      exact stored empties next
  | stored empties before =>
      rcases emptied_eq_ok empties with
        ⟨ready, location, makes, place, noDirectory, rfl⟩
      rw [putStore_putStore place noDirectory,
        putStore_putStore place noDirectory,
        ← putStore_putStore place noDirectory { documents := some [] }]
      exact stored empties next

theorem saveRanges (prior : tree.LeftByRuns path left) {ranges : LogRanges}
    {saved : FileTree} (saves : left.saveRanges path ranges = .ok saved) :
    tree.LeftByRuns path saved := by
  rcases bind_eq_ok.mp saves with ⟨store, opens, ends⟩
  rw [← pure_eq_ok.mp ends]
  exact prior.putStore opens _

theorem ingestCluster (prior : tree.LeftByRuns path left)
    (config : IndexConfig) (root : Path) :
    tree.LeftByRuns path (left.ingestCluster path config root).2 := by
  rw [FileTree.ingestCluster]
  split
  · rw [startWriting_fresh, prior.emptied_eq]
    cases empties : tree.emptied path with
    | error failure => exact prior
    | ok started =>
        simp only [Except.map]
        rcases Ingestion.ingestNodes started (started.directoriesIn root)
          { config, store := { documents := some [] } } with
          ⟨failure | summaries, writing⟩
        · exact stored empties _
        · exact stored empties _
  · exact prior

end LeftByRuns

end ClusterLog.FileTree
