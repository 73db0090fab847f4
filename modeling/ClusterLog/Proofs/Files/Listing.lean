import ClusterLog.Proofs.Files.Soundness
import ClusterLog.Proofs.Text.Order
import Mathlib.Data.List.Nodup

/-!
# Listings of directories

Below a directory everything is listed that a path leads to which goes on from
the path of the directory, and nothing else.  A listing is in the order of paths,
and nothing is listed twice.
-/

namespace ClusterLog

namespace Path

/-- A path goes on from the path of a directory, by one name at least and never
back. -/
def GoesDown (path directory : Path) : Prop :=
  ∃ names, names ≠ [] ∧ ".." ∉ names ∧
    path = { directory with names := directory.names ++ names }

/-- Paths that go on from one path are the same if their names are. -/
theorem GoesDown.eq_of_names {path other directory : Path}
    (down : path.GoesDown directory) (downToo : other.GoesDown directory)
    (same : path.names = other.names) : path = other := by
  rcases down with ⟨names, -, -, rfl⟩
  rcases downToo with ⟨others, -, -, rfl⟩
  exact congrArg (Path.mk directory.anchor) same

/-! ## The order of paths -/

theorem namesPrecede_cons_iff {left right : String}
    {lefts rights : List String} :
    namesPrecede (left :: lefts) (right :: rights) = true ↔
      left = right ∧ namesPrecede lefts rights = true ∨
        left ≠ right ∧ Text.precedes left.toList right.toList = true := by
  rw [namesPrecede]
  split <;> simp [*]

theorem namesPrecede_trans {first second third : List String}
    (before : namesPrecede first second = true)
    (behind : namesPrecede second third = true) :
    namesPrecede first third = true := by
  induction first generalizing second third with
  | nil => rfl
  | cons name first ih =>
      cases second with
      | nil => cases before
      | cons next second =>
          cases third with
          | nil => cases behind
          | cons last third =>
              rw [namesPrecede_cons_iff] at before behind ⊢
              rcases before with ⟨rfl, before⟩ | ⟨apart, before⟩
              · exact behind.imp_left fun ⟨same, behind⟩ =>
                  ⟨same, ih before behind⟩
              · rcases behind with ⟨rfl, -⟩ | ⟨-, behind⟩
                · exact Or.inr ⟨apart, before⟩
                · refine Or.inr ⟨?_, Text.precedes_trans before behind⟩
                  rintro rfl
                  exact apart (String.toList_inj.mp
                    (Text.precedes_antisymm before behind))

theorem namesPrecede_antisymm {left right : List String}
    (before : namesPrecede left right = true)
    (behind : namesPrecede right left = true) :
    left = right := by
  induction left generalizing right with
  | nil =>
      cases right with
      | nil => rfl
      | cons other right => cases behind
  | cons name left ih =>
      cases right with
      | nil => cases before
      | cons other right =>
          rw [namesPrecede_cons_iff] at before behind
          rcases before with ⟨rfl, before⟩ | ⟨apart, before⟩
          · rcases behind with ⟨-, behind⟩ | ⟨apart, -⟩
            · rw [ih before behind]
            · exact absurd rfl apart
          · rcases behind with ⟨same, -⟩ | ⟨-, behind⟩
            · exact absurd same.symm apart
            · exact absurd (String.toList_inj.mp
                (Text.precedes_antisymm before behind)) apart

theorem namesPrecede_total (left right : List String) :
    (namesPrecede left right || namesPrecede right left) = true := by
  induction left generalizing right with
  | nil => rfl
  | cons name left ih =>
      cases right with
      | nil => rfl
      | cons other right =>
          have comparable := Text.precedes_total name.toList other.toList
          have others := ih right
          rw [Bool.or_eq_true] at comparable others ⊢
          rw [namesPrecede_cons_iff, namesPrecede_cons_iff]
          by_cases same : name = other
          · exact others.imp (fun before => Or.inl ⟨same, before⟩)
              fun behind => Or.inl ⟨same.symm, behind⟩
          · exact comparable.imp (fun before => Or.inr ⟨same, before⟩)
              fun behind => Or.inr ⟨Ne.symm same, behind⟩

theorem precedes_refl (path : Path) : path.precedes path = true := by
  have comparable := namesPrecede_total path.names path.names
  rwa [Bool.or_self] at comparable

end Path

namespace FileTree

variable {tree : FileTree} {location : Location} {path directory : Path}

/-! ## Names below a location -/

/-- The names that lead from one location down to another one. -/
def namesTo? (location other : Location) : Option (List String) :=
  if location.isPrefixOf other && other.length != location.length then
    some (other.drop location.length)
  else
    none

theorem namesTo?_eq_some_iff {location other : Location} {names : List String} :
    namesTo? location other = some names ↔
      names ≠ [] ∧ other = location ++ names := by
  unfold namesTo?
  constructor
  · intro leads
    split at leads
    · rename_i longer
      simp only [Bool.and_eq_true, bne_iff_ne, List.isPrefixOf_iff_prefix]
        at longer
      rcases longer with ⟨⟨rest, rfl⟩, longer⟩
      obtain rfl : rest = names := by simpa using leads
      refine ⟨?_, rfl⟩
      rintro rfl
      simp at longer
    · cases leads
  · rintro ⟨down, rfl⟩
    simp [down]

theorem namesBelow_eq (tree : FileTree) (location : Location) :
    tree.namesBelow location =
      (tree.nodes.map Prod.fst).filterMap (namesTo? location) := by
  rw [List.filterMap_map]
  rfl

theorem mem_namesBelow_iff {names : List String} :
    names ∈ tree.namesBelow location ↔
      names ≠ [] ∧ location ++ names ∈ tree.nodes.map Prod.fst := by
  rw [namesBelow_eq, List.mem_filterMap]
  simp only [namesTo?_eq_some_iff]
  exact ⟨fun ⟨_, stands, down, same⟩ => ⟨down, same ▸ stands⟩,
    fun ⟨down, stands⟩ => ⟨_, stands, down, rfl⟩⟩

/-- What stands at a location other than the root is one of the nodes. -/
theorem exists_at?_iff (below : location ≠ []) :
    (∃ node, tree.at? location = some node) ↔
      location ∈ tree.nodes.map Prod.fst := by
  have filled : ¬ location.isEmpty = true := by simpa using below
  rw [at?, if_neg filled, ← Option.isSome_iff_exists, List.lookup_isSome_iff,
    List.mem_map]
  exact exists_congr fun _ => and_congr_right fun _ =>
    beq_iff_eq.trans eq_comm

/-! ## Where names lead -/

theorem follow_append (start : Location) (names others : List String) :
    tree.follow start (names ++ others) =
      (tree.follow start names).bind fun between =>
        tree.follow between others := by
  induction names generalizing start with
  | nil => rfl
  | cons name names ih =>
      rw [List.cons_append, FileTree.follow, FileTree.follow]
      split
      · exact ih _
      · rfl

/-- Names without a way back lead to where they say. -/
theorem eq_append_of_follow {start : Location} {names : List String}
    (forward : ".." ∉ names)
    (leads : tree.follow start names = some location) :
    location = start ++ names := by
  induction names generalizing start with
  | nil =>
      cases leads
      exact (List.append_nil _).symm
  | cons name names ih =>
      rw [List.mem_cons, not_or] at forward
      rw [FileTree.follow] at leads
      split at leads
      · rw [if_neg (Ne.symm forward.1)] at leads
        rw [ih forward.2 leads, List.append_assoc]
        rfl
      · cases leads

/-- What stands below a location stands below a directory. -/
theorem IsSound.directory_above (sound : tree.IsSound) {name : String}
    {names : List String} {node : Node}
    (stands : tree.at? (location ++ name :: names) = some node) :
    tree.at? location = some .directory := by
  induction names generalizing location name node with
  | nil =>
      have above := (sound.isPlace stands).parent
      rwa [List.dropLast_concat] at above
  | cons next names ih =>
      have split : location ++ name :: next :: names =
          (location ++ [name]) ++ next :: names := by
        simp
      rw [split] at stands
      have above := (sound.isPlace (ih stands)).parent
      rwa [List.dropLast_concat] at above

theorem IsSound.noBack (sound : tree.IsSound) {node : Node}
    (stands : tree.at? location = some node) : ".." ∉ location := by
  intro back
  exact absurd ((sound.isPlace stands).names ".." back) (by decide)

theorem IsSound.follow_of_at? (sound : tree.IsSound) {names : List String}
    {node : Node} (stands : tree.at? (location ++ names) = some node) :
    tree.follow location names = some (location ++ names) := by
  induction names generalizing location with
  | nil => simp [FileTree.follow]
  | cons name names ih =>
      have noBack : name ≠ ".." := by
        rintro rfl
        exact sound.noBack stands (by simp)
      have split : location ++ name :: names =
          (location ++ [name]) ++ names := by
        simp
      rw [FileTree.follow, if_pos (sound.directory_above stands),
        if_neg noBack]
      rw [split] at stands ⊢
      exact ih stands

/-- Names below a directory go on with the path of the directory. -/
theorem IsSound.find?_below (sound : tree.IsSound)
    (leads : tree.locate path = some location) {names : List String}
    {node : Node} (stands : tree.at? (location ++ names) = some node) :
    tree.find? { path with names := path.names ++ names } = some node := by
  have whole := hasNull_of_locate leads
  have noNull : Path.hasNull { path with names := path.names ++ names } =
      false := by
    rw [Path.hasNull] at whole ⊢
    rw [List.any_append, whole, Bool.false_or, List.any_eq_false]
    intro name member
    have proper := (sound.isPlace stands).names name (by simp [member])
    simpa [isName] using ((Bool.and_eq_true ..).mp proper).2
  simp only [locate, whole, Bool.false_eq_true, if_false] at leads
  simp only [find?, locate, noNull, Bool.false_eq_true, if_false]
  change (tree.follow (if path.isAbsolute then [] else tree.current)
    (path.names ++ names)).bind tree.at? = some node
  rw [follow_append, leads, Option.bind_some, sound.follow_of_at? stands,
    Option.bind_some, stands]

/-- Where a path goes on from the path of a directory, so do the locations. -/
theorem exists_locate_of_append {names : List String}
    (leads : tree.locate { directory with names := directory.names ++ names } =
      some location) :
    ∃ between, tree.locate directory = some between ∧
      tree.follow between names = some location := by
  have whole := hasNull_of_locate leads
  have wholeDirectory : directory.hasNull = false := by
    rw [Path.hasNull, List.any_append, Bool.or_eq_false_iff] at whole
    exact whole.1
  simp only [locate, whole, wholeDirectory, Bool.false_eq_true, if_false]
    at leads ⊢
  exact Option.bind_eq_some_iff.mp ((follow_append ..).symm.trans leads)

/-- Only in directories does anything stand. -/
theorem isDirectory_of_goesDown (down : path.GoesDown directory) {node : Node}
    (found : tree.find? path = some node) :
    tree.isDirectory directory = true := by
  rcases down with ⟨names, down, -, rfl⟩
  rcases Option.bind_eq_some_iff.mp found with ⟨place, leads, -⟩
  rcases exists_locate_of_append leads with ⟨between, leadsTo, follows⟩
  cases names with
  | nil => exact absurd rfl down
  | cons name names =>
      rw [FileTree.follow] at follows
      split at follows
      · rename_i there
        simp [isDirectory, find?, leadsTo, there]
      · cases follows

/-! ## Listings -/

theorem pairwise_below (tree : FileTree) (directory : Path) :
    (tree.below directory).Pairwise (Path.precedes · · = true) := by
  unfold below
  split
  · refine List.pairwise_mergeSort ?_ ?_ _
    · exact fun _ _ _ => Path.namesPrecede_trans
    · exact fun path other => Path.namesPrecede_total path.names other.names
  · exact .nil

/-- Below a directory everything is listed that a path leads to which goes on
from the path of the directory. -/
theorem IsSound.mem_below_iff (sound : tree.IsSound) :
    path ∈ tree.below directory ↔
      path.GoesDown directory ∧ ∃ node, tree.find? path = some node := by
  constructor
  · intro member
    unfold below at member
    split at member
    · rename_i location leads
      rcases List.mem_map.mp (List.mem_mergeSort.mp member) with
        ⟨names, listed, rfl⟩
      rcases mem_namesBelow_iff.mp listed with ⟨down, stored⟩
      have deeper : location ++ names ≠ [] := by simp [down]
      rcases (exists_at?_iff deeper).mpr stored with ⟨node, stands⟩
      refine ⟨⟨names, down, fun back => ?_, rfl⟩, node,
        sound.find?_below leads stands⟩
      exact sound.noBack stands (List.mem_append_right location back)
    · cases member
  · rintro ⟨⟨names, down, forward, rfl⟩, node, found⟩
    rcases Option.bind_eq_some_iff.mp found with ⟨place, leads, stands⟩
    rcases exists_locate_of_append leads with ⟨between, leadsTo, follows⟩
    obtain rfl := eq_append_of_follow forward follows
    have deeper : between ++ names ≠ [] := by simp [down]
    have listed : names ∈ tree.namesBelow between :=
      mem_namesBelow_iff.mpr
        ⟨down, (exists_at?_iff deeper).mp ⟨node, stands⟩⟩
    rw [below, leadsTo]
    exact List.mem_mergeSort.mpr (List.mem_map.mpr ⟨names, listed, rfl⟩)

end FileTree

end ClusterLog
