import ClusterLog.Proofs.Appender.Discovery
import ClusterLog.Proofs.Compression.Damage
import ClusterLog.Proofs.Ingest.Readings

/-!
# Failures of readings

Once an ingestion has begun to read log files, nothing that it looks for is
missing and nothing that it was given is refused any more: it only looks at
files and directories that it has found.  What can still fail comes from the
contents of the files.
-/

namespace ClusterLog.FileTree

variable {tree started : FileTree} {path node : Path}

/-- A computation fails only because of the contents of files. -/
abbrev FailsByContents {Value : Type} (returned : Value → Prop) :
    Except Failure Value → Prop :=
  Satisfies returned (·.isAboutContents = true)

/-! ## Files that are there -/

theorem exists_bytes_of_isFile (there : tree.isFile path = true) :
    ∃ bytes, tree.bytes path = .ok bytes := by
  unfold isFile at there
  unfold bytes
  split at there
  · cases there
  · cases there
  · rename_i node noDirectory found
    rw [found]
    cases node with
    | directory => exact absurd rfl noDirectory
    | file bytes => exact ⟨bytes, rfl⟩
    | index store => exact ⟨[], rfl⟩

theorem failsByContents_lines (there : tree.isFile path = true) :
    FailsByContents (fun _ => True) (tree.lines path) := by
  rcases exists_bytes_of_isFile there with ⟨bytes, reads⟩
  rw [lines, reads]
  simp only [bind, Except.bind]
  split
  · have damaged := Compression.failsDamaged_gunzip bytes
    cases result : Compression.gunzip bytes with
    | ok output => trivial
    | error failure =>
        rw [result] at damaged
        exact Failure.isAboutContents_of_isDamage damaged
  · trivial

theorem failsByContents_fingerprint (there : tree.isFile path = true) :
    FailsByContents (fun _ => True)
      (tree.fingerprint path fingerprintLines) := by
  have enough : ¬ fingerprintLines < 0 := by decide
  rw [fingerprint, if_neg enough]
  exact (failsByContents_lines there).bind fun _ _ => trivial

theorem failsByContents_entries (there : tree.isFile path = true)
    (grammar : Layout.Grammar) :
    FailsByContents (fun _ => True) (tree.entries path grammar) := by
  rw [entries, if_pos there]
  exact (failsByContents_lines there).bind fun _ _ => trivial

/-! ## Nodes -/

/-- A configuration that is found can be read, unless it is a directory. -/
theorem failsByContents_configurationLines (sound : tree.IsSound)
    (node : Path) :
    FailsByContents (fun _ => True) (tree.configurationLines node) := by
  by_cases blocked : ∃ path,
      tree.IsConfiguration node path ∧ tree.isDirectory path = true
  · rcases blocked with ⟨path, here, there⟩
    rw [sound.configurationLines_of_directory here there]
    exact rfl
  · have readable : ∀ path, tree.IsConfiguration node path →
        tree.isDirectory path = false := by
      simpa using blocked
    rcases sound.exists_configurationLines readable with ⟨lines, reads⟩
    rw [reads]
    trivial

theorem isFile_of_mem_filesMatching {directory : Path} {pattern : Pattern}
    (member : path ∈ tree.filesMatching directory pattern) :
    tree.isFile path = true := by
  unfold filesMatching at member
  split at member
  · exact ((Bool.and_eq_true ..).mp (List.mem_filter.mp member).2).1
  · cases member

/-- The log files of a node are files. -/
theorem failsByContents_logFiles (sound : tree.IsSound) (node : Path) :
    FailsByContents (fun found => ∀ path ∈ found.1, tree.isFile path = true)
      (tree.logFiles node) := by
  refine (failsByContents_configurationLines sound node).bind fun lines _ => ?_
  dsimp only
  split
  · split <;> exact fun path => isFile_of_mem_filesMatching
  · exact fun path => isFile_of_mem_filesMatching

theorem isAboutContents_of_collectFiles {grammar : Layout.Grammar}
    {seen : List String} {paths : List Path}
    (there : ∀ path ∈ paths, tree.isFile path = true) {failure : Failure}
    (fails : (tree.collectFiles grammar seen paths).failure = some failure) :
    failure.isAboutContents = true := by
  induction paths generalizing seen with
  | nil => cases fails
  | cons path paths ih =>
      have others := fun other member =>
        there other (List.mem_cons_of_mem path member)
      have printed := failsByContents_fingerprint (there path (by simp))
      have read := failsByContents_entries (there path (by simp)) grammar
      rw [collectFiles] at fails
      split at fails
      · rename_i stops
        rw [stops] at printed
        cases fails
        exact printed
      · split at fails
        · exact ih others fails
        · split at fails
          · rename_i stops
            rw [stops] at read
            cases fails
            exact read
          · exact ih others fails

theorem isAboutContents_of_collectNode (sound : tree.IsSound)
    (there : tree.isDirectory node = true) {failure : Failure}
    (fails : (tree.collectNode node).2 = some failure) :
    failure.isAboutContents = true := by
  have found := failsByContents_logFiles sound node
  rw [collectNode, if_pos there] at fails
  split at fails
  · rename_i stops
    rw [stops] at found
    cases fails
    exact found
  · rename_i files
    rw [files] at found
    exact isAboutContents_of_collectFiles found fails

theorem isAboutContents_of_collectNodes (sound : tree.IsSound)
    {nodes : List Path}
    (there : ∀ node ∈ nodes, tree.isDirectory node = true) {failure : Failure}
    (fails : (tree.collectNodes nodes).failure = some failure) :
    failure.isAboutContents = true := by
  induction nodes with
  | nil => cases fails
  | cons node nodes ih =>
      rw [collectNodes] at fails
      split at fails
      · rename_i logs other stops
        cases fails
        exact isAboutContents_of_collectNode sound (there node (by simp))
          (by rw [stops])
      · exact ih (fun other member => there other (by simp [member])) fails

/-- Behind a fresh start, only the contents of files make a reading fail. -/
theorem isAboutContents_of_clusterLogs {index root : Path}
    (sound : tree.IsSound) (empties : tree.emptied index = .ok started)
    {failure : Failure}
    (fails : (tree.clusterLogs index root).failure = some failure) :
    failure.isAboutContents = true := by
  rw [clusterLogs, empties] at fails
  refine isAboutContents_of_collectNodes (sound.emptied empties) ?_ fails
  intro node member
  exact ((Bool.and_eq_true ..).mp (List.mem_filter.mp member).2).2

end ClusterLog.FileTree
