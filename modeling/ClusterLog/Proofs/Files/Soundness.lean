import ClusterLog.Proofs.Files.EarlierRuns

/-!
# Sound file trees

In a file system everything stands in a directory, and no name is `..` or has a
null character.  Making directories and emptying indexes keep it so.
-/

namespace ClusterLog.FileTree

/-- Whether something can have a name. -/
def isName (name : String) : Bool :=
  name != ".." && name.toList.all fun c => c.toNat != 0

/-- Something can stand at a location. -/
structure IsPlace (tree : FileTree) (location : Location) : Prop where
  parent : tree.at? location.dropLast = some .directory
  names : ∀ name ∈ location, isName name = true

instance (tree : FileTree) (location : Location) :
    Decidable (tree.IsPlace location) :=
  decidable_of_iff
    (tree.at? location.dropLast = some .directory ∧
      ∀ name ∈ location, isName name = true)
    ⟨fun ⟨parent, names⟩ => ⟨parent, names⟩,
      fun ⟨parent, names⟩ => ⟨parent, names⟩⟩

/-- Relative paths start from a directory, and everything stands where it can. -/
structure IsSound (tree : FileTree) : Prop where
  current : tree.at? tree.current = some .directory
  places : ∀ entry ∈ tree.nodes, tree.IsPlace entry.1

instance (tree : FileTree) : Decidable tree.IsSound :=
  decidable_of_iff
    (tree.at? tree.current = some .directory ∧
      ∀ entry ∈ tree.nodes, tree.IsPlace entry.1)
    ⟨fun ⟨current, places⟩ => ⟨current, places⟩,
      fun ⟨current, places⟩ => ⟨current, places⟩⟩

variable {tree made : FileTree} {location : Location} {path : Path}

theorem isPlace_root (tree : FileTree) : tree.IsPlace [] where
  parent := rfl
  names := nofun

/-- Everything stands where it can. -/
theorem IsSound.isPlace (sound : tree.IsSound) {node : Node}
    (stands : tree.at? location = some node) : tree.IsPlace location := by
  rw [at?] at stands
  split at stands
  · rename_i root
    obtain rfl := List.isEmpty_iff.mp root
    exact isPlace_root tree
  · rcases List.lookup_eq_some_iff.mp stands with ⟨before, behind, split, -⟩
    exact sound.places (location, node) (by simp [split])

theorem IsSound.child (sound : tree.IsSound)
    (there : tree.at? location = some .directory) {name : String}
    (proper : isName name = true) : tree.IsPlace (location ++ [name]) where
  parent := by rwa [List.dropLast_concat]
  names := by
    intro other member
    rcases List.mem_append.mp member with above | last
    · exact (sound.isPlace there).names other above
    · obtain rfl := List.mem_singleton.mp last
      exact proper

theorem isName_of_not_hasNull (whole : path.hasNull = false) {name : String}
    (member : name ∈ path.names) (noBack : name ≠ "..") :
    isName name = true := by
  have noNull := List.any_eq_false.mp whole name member
  simp only [isName, Bool.and_eq_true, bne_iff_ne, ne_eq, noBack,
    not_false_eq_true, true_and, List.all_eq_true]
  intro c inside zero
  exact noNull (List.any_eq_true.mpr ⟨c, inside, by simp [zero]⟩)

/-! ## Following names -/

theorem IsSound.follow (sound : tree.IsSound) {start : Location}
    {names : List String} (begins : tree.IsPlace start)
    (proper : ∀ name ∈ names, name ≠ ".." → isName name = true)
    (leads : tree.follow start names = some location) :
    tree.IsPlace location := by
  induction names generalizing start with
  | nil =>
      cases leads
      exact begins
  | cons name names ih =>
      rw [FileTree.follow] at leads
      split at leads
      · rename_i there
        refine ih ?_ (fun other member => proper other (by simp [member])) leads
        split
        · exact sound.isPlace begins.parent
        · rename_i noBack
          exact sound.child there (proper name (by simp) noBack)
      · cases leads

theorem IsSound.isPlace_of_locate (sound : tree.IsSound)
    (leads : tree.locate path = some location) : tree.IsPlace location := by
  have whole := hasNull_of_locate leads
  simp only [locate, whole, Bool.false_eq_true, if_false] at leads
  refine sound.follow ?_ (fun _ => isName_of_not_hasNull whole) leads
  split
  · exact isPlace_root tree
  · exact sound.isPlace sound.current

/-! ## Putting files and directories -/

theorem IsPlace.set {other : Location} {node : Node}
    (place : tree.IsPlace other)
    (keeps : tree.at? location = some .directory → node = .directory) :
    (tree.set location node).IsPlace other where
  parent := by
    rw [at?_set]
    split
    · rfl
    · split
      · rename_i same
        rw [keeps (same ▸ place.parent)]
      · exact place.parent
  names := place.names

theorem IsSound.set (sound : tree.IsSound) (place : tree.IsPlace location)
    {node : Node}
    (keeps : tree.at? location = some .directory → node = .directory) :
    (tree.set location node).IsSound where
  current := by
    have there : (tree.set location node).current = tree.current := rfl
    rw [there, at?_set]
    split
    · rfl
    · split
      · rename_i same
        rw [keeps (same ▸ sound.current)]
      · exact sound.current
  places := by
    intro entry member
    rcases List.mem_append.mp member with kept | new
    · exact (sound.places entry (List.mem_filter.mp kept).1).set keeps
    · obtain rfl := List.mem_singleton.mp new
      exact place.set keeps

theorem IsSound.makeBelow (sound : tree.IsSound) {start : Location}
    {names : List String} (begins : tree.at? start = some .directory)
    (proper : ∀ name ∈ names, name ≠ ".." → isName name = true)
    (makes : tree.makeBelow start names = .ok made) :
    made.IsSound := by
  induction names generalizing tree start with
  | nil =>
      cases makes
      exact sound
  | cons name names ih =>
      have others := fun other member =>
        proper other (List.mem_cons_of_mem name member)
      rw [FileTree.makeBelow] at makes
      split at makes
      · exact ih sound (sound.isPlace begins).parent others makes
      · rename_i noBack
        have place := sound.child begins (proper name (by simp) noBack)
        dsimp only at makes
        split at makes
        · rename_i there
          exact ih sound there others makes
        · refine ih (sound.set place fun _ => rfl) ?_ others makes
          simp [at?_set]
        · cases makes

theorem IsSound.makeDirectory (sound : tree.IsSound)
    (makes : tree.makeDirectory path = .ok made) : made.IsSound := by
  unfold FileTree.makeDirectory at makes
  split at makes
  · cases makes
  · rename_i whole
    have whole : path.hasNull = false := by simpa using whole
    refine sound.makeBelow ?_ (fun _ => isName_of_not_hasNull whole) makes
    split
    · rfl
    · exact sound.current

/-- Emptying an index keeps the files sound. -/
theorem IsSound.emptied (sound : tree.IsSound) {started : FileTree}
    (empties : tree.emptied path = .ok started) : started.IsSound := by
  rcases emptied_eq_ok empties with
    ⟨ready, location, makes, leads, noDirectory, rfl⟩
  have soundReady := sound.makeDirectory makes
  simp only [putStore, leads]
  exact soundReady.set (soundReady.isPlace_of_locate leads) fun there =>
    absurd there noDirectory

end ClusterLog.FileTree
