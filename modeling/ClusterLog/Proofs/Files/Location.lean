import ClusterLog.Index.File

/-!
# Locations in file trees

A file that is put in place of another one moves nothing else: every path
leads where it led.  Once a path leads to a file, its directory is there and
is not made again.
-/

namespace ClusterLog

/-! ## Association lists -/

theorem lookup_filter_ne {Key Value : Type}
    [BEq Key] [LawfulBEq Key]
    (entries : List (Key × Value)) {key other : Key}
    (different : other ≠ key) :
    (entries.filter (·.1 != key)).lookup other = entries.lookup other := by
  induction entries with
  | nil => rfl
  | cons entry entries ih =>
      rcases entry with ⟨first, value⟩
      by_cases removed : first = key
      · subst removed
        have apart : (other == first) = false := by simpa using different
        simp [List.lookup_cons, ih, apart]
      · simp [List.lookup_cons, ih, removed]

theorem lookup_filter_self {Key Value : Type}
    [BEq Key] [LawfulBEq Key]
    (entries : List (Key × Value)) (key : Key) :
    (entries.filter (·.1 != key)).lookup key = none := by
  rw [List.lookup_eq_none_iff]
  intro entry member
  have kept := (List.mem_filter.mp member).2
  have different : entry.1 ≠ key := by simpa using kept
  simpa using different.symm

namespace FileTree

variable {tree : FileTree}

/-! ## What stands at a location -/

theorem at?_set (location other : Location) (node : Node) :
    (tree.set location node).at? other =
      if other = [] then some .directory
      else if other = location then some node
      else tree.at? other := by
  by_cases root : other = []
  · simp [at?, root]
  · have below : other.isEmpty = false := by simpa using root
    by_cases same : other = location
    · subst same
      simp [at?, set, below, root, List.lookup_append, lookup_filter_self]
    · have apart : [(location, node)].lookup other = none := by
        simp [List.lookup_eq_none_iff, same]
      simp only [at?, set, below, root, same, apart, List.lookup_append,
        lookup_filter_ne _ same, Option.or_none]
      simp

/-- Names lead to the same place in trees with the same directories. -/
theorem follow_congr {other : FileTree}
    (same : ∀ location, other.at? location = some .directory ↔
      tree.at? location = some .directory)
    (location : Location) (names : List String) :
    other.follow location names = tree.follow location names := by
  induction names generalizing location with
  | nil => rfl
  | cons name names ih => simp only [follow, same, ih]

theorem locate_congr {other : FileTree}
    (current : other.current = tree.current)
    (same : ∀ location, other.at? location = some .directory ↔
      tree.at? location = some .directory)
    (path : Path) :
    other.locate path = tree.locate path := by
  simp only [locate, current, follow_congr same]

/-- A file in place of a file leaves the directories as they are. -/
theorem at?_set_eq_directory_iff {location : Location} {node : Node}
    (noDirectory : tree.at? location ≠ some .directory)
    (isFile : node ≠ .directory)
    (other : Location) :
    (tree.set location node).at? other = some .directory ↔
      tree.at? other = some .directory := by
  have below : location ≠ [] := by
    rintro rfl
    exact noDirectory rfl
  rw [at?_set]
  by_cases root : other = []
  · simp [root, at?]
  · by_cases same : other = location
    · simp [same, below, noDirectory, isFile]
    · simp [root, same]

theorem locate_set {location : Location} {node : Node}
    (noDirectory : tree.at? location ≠ some .directory)
    (isFile : node ≠ .directory)
    (path : Path) :
    (tree.set location node).locate path = tree.locate path := by
  have current : (tree.set location node).current = tree.current := rfl
  exact locate_congr current (at?_set_eq_directory_iff noDirectory isFile) path

/-! ## Indexes -/

/-- The documents of the index that a path points to; elsewhere are none. -/
def documentsAt (tree : FileTree) (path : Path) : List Document :=
  match tree.store? path with
  | .ok (some store) => store.documentList
  | _ => []

variable {path : Path} {store : Store}

theorem store?_of_find? (found : tree.find? path = some (.index store)) :
    tree.store? path = .ok (some store) := by
  simp only [store?, found]

theorem documentsAt_of_find? (found : tree.find? path = some (.index store)) :
    tree.documentsAt path = store.documentList := by
  simp only [documentsAt, store?_of_find? found]

theorem documentCount_of_store?
    (contents : tree.store? path = .ok (some store)) :
    tree.documentCount path = .ok store.count := by
  rw [documentCount, contents]
  rfl

theorem documentCount_of_find?
    (found : tree.find? path = some (.index store)) :
    tree.documentCount path = .ok store.count :=
  documentCount_of_store? (store?_of_find? found)

theorem hasNull_of_locate {location : Location}
    (place : tree.locate path = some location) :
    path.hasNull = false := by
  cases null : path.hasNull with
  | false => rfl
  | true => simp [locate, null] at place

theorem hasNull_of_find? {node : Node} (found : tree.find? path = some node) :
    path.hasNull = false := by
  rcases Option.bind_eq_some_iff.mp found with ⟨location, place, -⟩
  exact hasNull_of_locate place

theorem storeOrEmpty_of_find? (found : tree.find? path = some (.index store)) :
    tree.storeOrEmpty path = .ok store := by
  have located : (tree.locate path).isNone = false := by
    cases place : tree.locate path with
    | none => simp [find?, place] at found
    | some location => rfl
  have noDirectory : tree.isDirectory path = false := by
    simp [isDirectory, found]
  simp only [storeOrEmpty, hasNull_of_find? found, located, noDirectory,
    store?_of_find? found]
  rfl

/-- An index that can be written to has a place that is no directory. -/
theorem locate_of_storeOrEmpty (opens : tree.storeOrEmpty path = .ok store) :
    ∃ location,
      tree.locate path = some location ∧
      tree.at? location ≠ some .directory := by
  simp only [storeOrEmpty] at opens
  split at opens
  · cases opens
  · split at opens
    · cases opens
    · rename_i accepted
      simp only [Bool.or_eq_true, not_or, Bool.not_eq_true] at accepted
      rcases accepted with ⟨noDirectory, placed⟩
      cases place : tree.locate path with
      | none => simp [place] at placed
      | some location =>
          refine ⟨location, rfl, ?_⟩
          intro directory
          simp [isDirectory, find?, place, directory] at noDirectory

theorem documentsAt_of_storeOrEmpty
    (opens : tree.storeOrEmpty path = .ok store) :
    tree.documentsAt path = store.documentList := by
  simp only [storeOrEmpty] at opens
  split at opens
  · cases opens
  · split at opens
    · cases opens
    · cases contents : tree.store? path with
      | error failure =>
          rw [contents] at opens
          cases opens
      | ok stored =>
          rw [contents] at opens
          cases opens
          cases stored with
          | none => simp only [documentsAt, contents]; rfl
          | some stored => simp only [documentsAt, contents]; rfl

/-- An index that is put where one can be written to is found there. -/
theorem find?_putStore {location : Location}
    (place : tree.locate path = some location)
    (noDirectory : tree.at? location ≠ some .directory)
    (next : Store) :
    (tree.putStore path next).find? path = some (.index next) := by
  have below : location ≠ [] := by
    rintro rfl
    exact noDirectory rfl
  have stays := locate_set noDirectory
    (Node.noConfusion : Node.index next ≠ .directory) path
  simp only [putStore, place, find?, stays, Option.bind_some]
  simp [at?_set, below]

theorem find?_putStore_of_find?
    (found : tree.find? path = some (.index store))
    (next : Store) :
    (tree.putStore path next).find? path = some (.index next) := by
  rcases locate_of_storeOrEmpty (storeOrEmpty_of_find? found) with
    ⟨location, place, noDirectory⟩
  exact find?_putStore place noDirectory next

theorem saveRanges_of_find? (found : tree.find? path = some (.index store))
    (ranges : LogRanges) :
    tree.saveRanges path ranges =
      .ok (tree.putStore path (store.saveRanges ranges)) := by
  simp only [saveRanges, storeOrEmpty_of_find? found]
  rfl

/-! ## Directories -/

/-- Directories that names lead through are not made again. -/
theorem makeBelow_of_follow {start location : Location}
    {names : List String} {last : String}
    (leads : tree.follow start (names ++ [last]) = some location) :
    tree.makeBelow start names = .ok tree := by
  induction names generalizing start with
  | nil => rfl
  | cons name names ih =>
      rw [List.cons_append, follow] at leads
      split at leads
      · by_cases back : name = ".."
        · rw [if_pos back] at leads
          rw [makeBelow, if_pos back]
          exact ih leads
        · rw [if_neg back] at leads
          have there : tree.at? (start ++ [name]) = some .directory := by
            cases names with
            | nil =>
                rw [List.nil_append, follow] at leads
                split at leads
                · assumption
                · cases leads
            | cons second names =>
                rw [List.cons_append, follow] at leads
                split at leads
                · assumption
                · cases leads
          simp only [makeBelow, if_neg back, there]
          exact ih leads
      · cases leads

/-- Where a path leads to a place, the directories above it are there. -/
theorem makeDirectory_parent_of_locate {location : Location}
    (place : tree.locate path = some location) :
    tree.makeDirectory path.parent = .ok tree := by
  have whole := hasNull_of_locate place
  have parentWhole : path.parent.hasNull = false := by
    rw [Path.hasNull, List.any_eq_false] at whole ⊢
    intro name member
    exact whole name (List.dropLast_subset path.names member)
  simp only [locate, whole, Bool.false_eq_true, if_false] at place
  rw [makeDirectory, if_neg (by simp [parentWhole])]
  change tree.makeBelow (if path.isAbsolute then [] else tree.current)
    path.names.dropLast = .ok tree
  rcases List.eq_nil_or_concat path.names with none | ⟨names, last, split⟩
  · rw [none]
    rfl
  · rw [split, List.concat_eq_append, List.dropLast_concat]
    rw [split, List.concat_eq_append] at place
    exact makeBelow_of_follow place

theorem makeDirectory_parent {node : Node}
    (found : tree.find? path = some node) :
    tree.makeDirectory path.parent = .ok tree := by
  rcases Option.bind_eq_some_iff.mp found with ⟨location, place, -⟩
  exact makeDirectory_parent_of_locate place

/-- Where things stand in the order of paths, they are listed in this order. -/
theorem below_of_pairwise {location : Location}
    (place : tree.locate path = some location)
    (sorted : ((tree.namesBelow location).map fun names =>
      { path with names := path.names ++ names }).Pairwise
        (Path.precedes · · = true)) :
    tree.below path = (tree.namesBelow location).map fun names =>
      { path with names := path.names ++ names } := by
  rw [below, place]
  exact List.mergeSort_of_pairwise sorted

/-! ## The directory that relative paths start from -/

theorem current_putStore (path : Path) (store : Store) :
    (tree.putStore path store).current = tree.current := by
  unfold putStore
  split
  · rfl
  · rfl

theorem current_of_makeBelow {made : FileTree} {start : Location}
    {names : List String} (makes : tree.makeBelow start names = .ok made) :
    made.current = tree.current := by
  induction names generalizing tree start with
  | nil =>
      cases makes
      rfl
  | cons name names ih =>
      rw [makeBelow] at makes
      split at makes
      · exact ih makes
      · dsimp only at makes
        split at makes
        · exact ih makes
        · have same := ih makes
          exact same
        · cases makes

theorem current_of_makeDirectory {made : FileTree}
    (makes : tree.makeDirectory path = .ok made) :
    made.current = tree.current := by
  unfold makeDirectory at makes
  split at makes
  · cases makes
  · exact current_of_makeBelow makes

/-! ## Beginning to write -/

/-- What beginning to write does to the files. -/
theorem startWriting_eq_ok {config : IndexConfig} {fresh : Bool}
    {started : FileTree} {writing : Writing}
    (starts :
      tree.startWriting path config fresh = .ok (started, writing)) :
    ∃ ready store,
      tree.makeDirectory path.parent = .ok ready ∧
      ready.storeOrEmpty path = .ok store ∧
      writing = Writing.start config store fresh ∧
      started = ready.putStore path writing.store := by
  cases made : tree.makeDirectory path.parent with
  | error failure =>
      rw [startWriting, made] at starts
      cases starts
  | ok ready =>
      cases opened : ready.storeOrEmpty path with
      | error failure =>
          rw [startWriting, made] at starts
          simp only [bind, Except.bind, opened] at starts
          cases starts
      | ok store =>
          rw [startWriting, made] at starts
          simp only [bind, Except.bind, opened] at starts
          cases starts
          exact ⟨ready, store, rfl, opened, rfl, rfl⟩

/-- Writing to an index that is there can always begin. -/
theorem startWriting_of_find?
    (found : tree.find? path = some (.index store))
    (config : IndexConfig) (fresh : Bool) :
    tree.startWriting path config fresh =
      .ok (tree.putStore path (Writing.start config store fresh).store,
        Writing.start config store fresh) := by
  rw [startWriting, makeDirectory_parent found]
  simp only [bind, Except.bind, storeOrEmpty_of_find? found]
  rfl

end FileTree

end ClusterLog
