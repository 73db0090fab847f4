import ClusterLog.Appender.Discovery
import ClusterLog.Proofs.Appender.NamePattern
import ClusterLog.Proofs.Appender.Selection
import ClusterLog.Proofs.Files.Listing

/-!
# Found log files

The log files of a node are the files below `logs` whose names begin like the
first file of the chosen appender, or, where there are none, like one of the
well-known names.  Only a configuration that is a directory stops the search.
-/

namespace ClusterLog.FileTree

open Appender

section Discovery

variable {tree : FileTree} {path directory node : Path}

/-! ## Matching files -/

theorem exists_find?_of_isFile (there : tree.isFile path = true) :
    ∃ found, tree.find? path = some found := by
  unfold isFile at there
  split at there
  · cases there
  · cases there
  · rename_i found _ stands
    exact ⟨found, stands⟩

/-- The configuration of a node: in the order of paths, the first thing with its
name below `conf`. -/
structure IsConfiguration (tree : FileTree) (node path : Path) : Prop where
  down : path.GoesDown (node.child "conf")
  there : ∃ found, tree.find? path = some found
  named : path.name = "logback.xml"
  first : ∀ other : Path, other.GoesDown (node.child "conf") →
    (∃ found, tree.find? other = some found) → other.name = "logback.xml" →
    path.precedes other = true

theorem IsConfiguration.eq {other : Path} (here : tree.IsConfiguration node path)
    (hereToo : tree.IsConfiguration node other) : path = other := by
  refine here.down.eq_of_names hereToo.down (Path.namesPrecede_antisymm ?_ ?_)
  · exact here.first other hereToo.down hereToo.there hereToo.named
  · exact hereToo.first path here.down here.there here.named

/-- The first one in the listing is the first one in the order of paths. -/
theorem IsSound.isConfiguration_of_find? (sound : tree.IsSound)
    (found : (tree.below (node.child "conf")).find? (·.name == "logback.xml") =
      some path) :
    tree.IsConfiguration node path := by
  rcases List.find?_eq_some_iff_append.mp found with
    ⟨named, before, after, split, otherwise⟩
  have listed := sound.mem_below_iff.mp (List.mem_of_find?_eq_some found)
  refine ⟨listed.1, listed.2, beq_iff_eq.mp named, ?_⟩
  intro other down there known
  have member := sound.mem_below_iff.mpr ⟨down, there⟩
  rw [split] at member
  have sorted := pairwise_below tree (node.child "conf")
  rw [split, List.pairwise_append] at sorted
  rcases List.mem_append.mp member with inFront | here
  · exact absurd (beq_iff_eq.mpr known) (by simpa using otherwise other inFront)
  · rcases List.mem_cons.mp here with rfl | behind
    · exact other.precedes_refl
    · exact (List.pairwise_cons.mp sorted.2.1).1 other behind

theorem IsConfiguration.find?_below (here : tree.IsConfiguration node path)
    (sound : tree.IsSound) :
    (tree.below (node.child "conf")).find? (·.name == "logback.xml") =
      some path := by
  have listed := sound.mem_below_iff.mpr ⟨here.down, here.there⟩
  have some : ((tree.below (node.child "conf")).find?
      (·.name == "logback.xml")).isSome = true :=
    List.find?_isSome.mpr ⟨path, listed, beq_iff_eq.mpr here.named⟩
  rcases Option.isSome_iff_exists.mp some with ⟨first, found⟩
  rw [found, here.eq (sound.isConfiguration_of_find? found)]

/-- A configuration that is a directory cannot be read. -/
theorem IsSound.configurationLines_of_directory (sound : tree.IsSound)
    (here : tree.IsConfiguration node path)
    (there : tree.isDirectory path = true) :
    tree.configurationLines node = .error (.isDirectory path.text) := by
  rcases here.there with ⟨found, stands⟩
  have conf := isDirectory_of_goesDown here.down stands
  rw [configurationLines]
  simp only [conf, if_true, here.find?_below sound, plainText, bytes,
    of_decide_eq_true there]
  rfl

/-- Every other configuration can be read, and a missing one has no lines. -/
theorem IsSound.exists_configurationLines (sound : tree.IsSound)
    (noDirectory : ∀ path, tree.IsConfiguration node path →
      tree.isDirectory path = false) :
    ∃ lines, tree.configurationLines node = .ok lines := by
  unfold configurationLines
  dsimp only
  split
  · split
    · rename_i path found
      have here := sound.isConfiguration_of_find? found
      rcases here.there with ⟨standing, stands⟩
      have file : standing ≠ .directory := by
        rintro rfl
        exact absurd (noDirectory path here) (by simp [isDirectory, stands])
      rw [plainText, bytes, stands]
      cases standing with
      | directory => exact absurd rfl file
      | file bytes => exact ⟨_, rfl⟩
      | index store => exact ⟨_, rfl⟩
    · exact ⟨[], rfl⟩
  · exact ⟨[], rfl⟩

/-! ## Log files -/

end Discovery

/-! ## A name with a metacharacter -/

namespace PlainNode

def node : Path := ⟨.current, ["n1"]⟩

/-- A node without a configuration.  It has two files for the system log, and a
file whose name has another character in place of the dot. -/
def tree : FileTree where
  nodes := [
    (["n1"], .directory), (["n1", "logs"], .directory),
    (["n1", "logs", "old"], .directory),
    (["n1", "logs", "old", "system.log.1"], .file []),
    (["n1", "logs", "system-log"], .file []),
    (["n1", "logs", "system.log"], .file [])]

def latest : Path := ⟨.current, ["n1", "logs", "system.log"]⟩

theorem sound : tree.IsSound := by decide

theorem oneLine (path : Path) (down : path.GoesDown (node.child "logs"))
    (file : tree.isFile path = true) : '\n' ∉ path.name.toList := by
  have place : tree.locate (node.child "logs") = some ["n1", "logs"] := rfl
  have all : ∀ path ∈ tree.below (node.child "logs"),
      '\n' ∉ path.name.toList := by
    rw [below_of_pairwise place (by decide)]
    decide
  exact all path (sound.mem_below_iff.mpr ⟨down, exists_find?_of_isFile file⟩)

end PlainNode

namespace DirectoryNode

/-- The node has a log file with a well-known name. -/
def tree : FileTree where
  nodes := [
    (["n1"], .directory), (["n1", "conf"], .directory),
    (["n1", "conf", "logback.xml"], .directory),
    (["n1", "logs"], .directory), (["n1", "logs", "system.log"], .file [])]

theorem sound : tree.IsSound := by decide

end DirectoryNode

end ClusterLog.FileTree
