import ClusterLog.Proofs.Ingest.Accounting
import ClusterLog.Proofs.Ingest.Fingerprints

/-!
# Skipped duplicates

A file of a node is skipped if its fingerprint is that of a file that was
indexed before.  Unless digests collide, the two files then have the same first
and the same last lines, so that in files that are not too long no line is lost
that does not occur in the other file.  The fingerprint does not tell how many
lines there are between the first and the last ones, or how many of them are
both.
-/

namespace ClusterLog

/-! ## Progress -/

namespace Ingestion

/-- What is known of the files that were processed: each fingerprint that was
seen is that of an indexed file, and each duplicate has one of these. -/
structure Progress.Accounts (tree : FileTree) (processed : List Path)
    (progress : Progress) : Prop where
  seen : ∀ print ∈ progress.seen, ∃ path ∈ processed,
    tree.fingerprint path fingerprintLines = .ok print ∧
    ∃ statistics, (path.text, statistics) ∈ progress.files
  duplicates : ∀ name ∈ progress.duplicates, ∃ path ∈ processed,
    path.text = name ∧ ∃ print ∈ progress.seen,
      tree.fingerprint path fingerprintLines = .ok print

variable {tree : FileTree} {grammar : Layout.Grammar} {host : String}
variable {before after : Writing} {processed : List Path}
variable {progress next : Progress}

/-- A file whose fingerprint was seen before is a duplicate. -/
theorem Progress.Accounts.addDuplicate {path : Path} {print : String}
    (accounts : progress.Accounts tree processed)
    (known : print ∈ progress.seen)
    (prints : tree.fingerprint path fingerprintLines = .ok print) :
    { progress with
      duplicates := progress.duplicates ++ [path.text] }.Accounts tree
        (processed ++ [path]) where
  seen other member := by
    rcases accounts.seen other member with ⟨path, inside, same, written⟩
    exact ⟨path, List.mem_append_left _ inside, same, written⟩
  duplicates name member := by
    rcases List.mem_append.mp member with before | last
    · rcases accounts.duplicates name before with ⟨path, inside, found⟩
      exact ⟨path, List.mem_append_left _ inside, found⟩
    · exact ⟨path, by simp, (List.mem_singleton.mp last).symm, print, known,
        prints⟩

/-- A file of a new fingerprint is indexed. -/
theorem Progress.Accounts.addFile {path : Path} {print : String}
    (accounts : progress.Accounts tree processed)
    (prints : tree.fingerprint path fingerprintLines = .ok print)
    (statistics : WriteStatistics) :
    { progress with
      seen := print :: progress.seen
      files := progress.files ++ [(path.text, statistics)] }.Accounts tree
        (processed ++ [path]) where
  seen other member := by
    rcases List.mem_cons.mp member with rfl | before
    · exact ⟨path, by simp, prints, statistics, by simp⟩
    · rcases accounts.seen other before with
        ⟨path, inside, same, statistics, written⟩
      exact ⟨path, List.mem_append_left _ inside, same, statistics,
        List.mem_append_left _ written⟩
  duplicates name member := by
    rcases accounts.duplicates name member with
      ⟨path, inside, same, print, known, prints⟩
    exact ⟨path, List.mem_append_left _ inside, same, print,
      List.mem_cons_of_mem _ known, prints⟩

/-- One more file keeps the account. -/
theorem Progress.Accounts.ingestFile {path : Path}
    (accounts : progress.Accounts tree processed)
    (runs : (ingestFile tree grammar host progress path).run before =
      (.ok next, after)) :
    next.Accounts tree (processed ++ [path]) := by
  rw [run_ingestFile] at runs
  cases prints : tree.fingerprint path fingerprintLines with
  | error failure =>
      rw [prints] at runs
      cases runs
  | ok print =>
      rw [prints] at runs
      dsimp only at runs
      split at runs
      · rename_i known
        cases runs
        exact accounts.addDuplicate (List.contains_iff_mem.mp known) prints
      · cases found : tree.entries path grammar with
        | error failure =>
            rw [found] at runs
            cases runs
        | ok entries =>
            rw [found] at runs
            cases runs
            exact accounts.addFile prints _

/-- Files one after the other keep the account. -/
theorem Progress.Accounts.ingestFiles {paths : List Path}
    (accounts : progress.Accounts tree processed)
    (runs : (ingestFiles tree grammar host progress paths).run before =
      (.ok next, after)) :
    next.Accounts tree (processed ++ paths) := by
  induction paths generalizing progress processed before with
  | nil =>
      cases runs
      rw [List.append_nil]
      exact accounts
  | cons path paths ih =>
      rw [Ingestion.ingestFiles] at runs
      rcases run_bind_eq_ok.mp runs with ⟨middle, between, once, others⟩
      have whole := ih (accounts.ingestFile once) others
      rw [List.append_assoc] at whole
      exact whole

/-- What an ingestion of a node says of its log files. -/
theorem accounts_of_ingestNode {node : Path} {name : Option String}
    {summary : NodeSummary} {paths : List Path} {appender : Appender}
    (finds : tree.logFiles node = .ok (paths, appender))
    (returns : (ingestNode tree node name).run before =
      (.ok summary, after)) :
    ∃ progress : Progress, progress.Accounts tree paths ∧
      summary.files = progress.files ∧
      summary.duplicates = progress.duplicates := by
  unfold ingestNode at returns
  split at returns
  · rcases run_bind_eq_ok.mp returns with ⟨found, middle, lists, goesOn⟩
    rcases run_lift_eq_ok.mp lists with ⟨same, rfl⟩
    rw [finds] at same
    cases same
    rcases run_bind_eq_ok.mp goesOn with ⟨progress, between, runs, ends⟩
    cases ends
    have begun : ({} : Progress).Accounts tree [] := ⟨nofun, nofun⟩
    exact ⟨progress, begun.ingestFiles runs, rfl, rfl⟩
  · cases returns

end Ingestion

/-! ## Repetitions -/

namespace FileTree

/-- The bytes that are hashed for a file with these lines. -/
def fingerprintBytes (lines : List (List Char)) : List UInt8 :=
  Text.encodeUtf8 (fingerprintText fingerprintLines.toNat lines)

/-- The digests of no two files collide. -/
def HasNoCollisions (tree : FileTree) (paths : List Path) : Prop :=
  ∀ path ∈ paths, ∀ other ∈ paths, ∀ lines otherLines,
    tree.lines path = .ok lines → tree.lines other = .ok otherLines →
    Digest.sha256 (fingerprintBytes lines) =
      Digest.sha256 (fingerprintBytes otherLines) →
    fingerprintBytes lines = fingerprintBytes otherLines

variable {tree : FileTree} {paths : List Path}

theorem areLines_of_lines {path : Path} {lines : List (List Char)}
    (reads : tree.lines path = .ok lines) :
    Text.AreLines lines := by
  rcases bind_eq_ok.mp reads with ⟨bytes, -, cuts⟩
  split at cuts
  · rcases bind_eq_ok.mp cuts with ⟨plain, -, same⟩
    rw [← pure_eq_ok.mp same]
    exact Text.areLines_cutAfterLineFeeds _
  · rw [← pure_eq_ok.mp cuts]
    exact Text.areLines_cutAfterLineFeeds _

/--
A file has the first and the last lines of another one.  Each of its lines is
one of these, and its text is that of the other file, unless both have the first
and last lines in full and differ in the number of lines.
-/
structure Repeats (count : Nat) (lines others : List (List Char)) : Prop where
  heads : lines.take count = others.take count
  tails : lastLines count lines = lastLines count others
  covered : ∀ line ∈ lines, line ∈ others
  same : lines.flatten = others.flatten ∨
    count ≤ lines.length ∧ count ≤ others.length ∧
      lines.length ≠ others.length

theorem repeats_of_fingerprintText_eq {count : Nat}
    {lines others : List (List Char)}
    (are : Text.AreLines lines) (areToo : Text.AreLines others)
    (few : lines.length ≤ 2 * count)
    (same : fingerprintText count lines = fingerprintText count others) :
    Repeats count lines others := by
  rcases fingerprintText_inj are areToo same with ⟨heads, tails⟩
  refine ⟨heads, tails, ?_, ?_⟩
  · intro line member
    rcases mem_take_or_lastLines few member with first | last
    · rw [heads] at first
      exact List.mem_of_mem_take first
    · rw [tails] at last
      exact List.mem_of_mem_drop last
  · by_cases short : lines.length < count
    · exact Or.inl (congrArg _ (eq_of_take_eq heads short))
    · by_cases shortToo : others.length < count
      · exact Or.inl (congrArg _ (eq_of_take_eq heads.symm shortToo).symm)
      · by_cases length : lines.length = others.length
        · exact Or.inl (congrArg _ (eq_of_lastLines_eq heads tails length few))
        · exact Or.inr ⟨Nat.le_of_not_lt short, Nat.le_of_not_lt shortToo,
            length⟩

/-- Files of one fingerprint have the same first and last lines. -/
theorem fingerprintText_eq_of_fingerprint_eq
    (noCollisions : tree.HasNoCollisions paths)
    {path other : Path} (inside : path ∈ paths) (insideToo : other ∈ paths)
    {print : String}
    (prints : tree.fingerprint path fingerprintLines = .ok print)
    (printsToo : tree.fingerprint other fingerprintLines = .ok print) :
    ∃ lines others,
      tree.lines path = .ok lines ∧ tree.lines other = .ok others ∧
      fingerprintText fingerprintLines.toNat lines =
        fingerprintText fingerprintLines.toNat others := by
  rcases fingerprint_eq_ok.mp prints with ⟨lines, reads, digest⟩
  rcases fingerprint_eq_ok.mp printsToo with ⟨others, readsToo, digestToo⟩
  have states := Digest.State.hex_inj (digest.trans digestToo.symm)
  exact ⟨lines, others, reads, readsToo, encodeUtf8_inj
    (noCollisions path inside other insideToo lines others reads readsToo
      states)⟩

end FileTree

/--
Each file that an ingestion of a node skips as a duplicate has the same first
hundred and the same last hundred lines as a file that it indexed.  If no file
has more than two hundred lines, no line is lost, and the text is the same
unless both files have a hundred lines or more and differ in their number.
-/
theorem Ingestion.ingestNode_duplicates {tree : FileTree} {node : Path}
    {name : Option String} {before after : Writing} {summary : NodeSummary}
    {paths : List Path} {appender : Appender}
    (finds : tree.logFiles node = .ok (paths, appender))
    (few : ∀ path ∈ paths, ∀ lines, tree.lines path = .ok lines →
      lines.length ≤ 200)
    (noCollisions : tree.HasNoCollisions paths)
    (returns : (ingestNode tree node name).run before =
      (.ok summary, after)) :
    ∀ duplicate ∈ summary.duplicates,
      ∃ skipped ∈ paths, ∃ indexed ∈ paths,
        skipped.text = duplicate ∧
        (∃ statistics, (indexed.text, statistics) ∈ summary.files) ∧
        ∃ lines others,
          tree.lines skipped = .ok lines ∧ tree.lines indexed = .ok others ∧
          FileTree.Repeats 100 lines others := by
  intro duplicate member
  rcases accounts_of_ingestNode finds returns with
    ⟨progress, accounts, files, duplicates⟩
  rw [duplicates] at member
  rcases accounts.duplicates duplicate member with
    ⟨skipped, inside, same, print, known, prints⟩
  rcases accounts.seen print known with
    ⟨indexed, insideToo, printsToo, written⟩
  rcases FileTree.fingerprintText_eq_of_fingerprint_eq noCollisions inside
    insideToo prints printsToo with ⟨lines, others, reads, readsToo, equal⟩
  rw [files]
  exact ⟨skipped, inside, indexed, insideToo, same, written, lines, others,
    reads, readsToo, FileTree.repeats_of_fingerprintText_eq
      (FileTree.areLines_of_lines reads) (FileTree.areLines_of_lines readsToo)
      (few skipped inside lines reads) equal⟩

/-! ## Files of equal lines -/

/-- Of two files of one fingerprint the second one is skipped. -/
theorem Ingestion.ingestNode_pair {tree : FileTree} {node first second : Path}
    {appender : Appender} {print : String} {entries : List Entry}
    (there : tree.isDirectory node = true)
    (finds : tree.logFiles node = .ok ([first, second], appender))
    (prints : tree.fingerprint first fingerprintLines = .ok print)
    (printsToo : tree.fingerprint second fingerprintLines = .ok print)
    (reads : tree.entries first (Layout.compile appender.layout) = .ok entries)
    (before : Writing) :
    ∃ summary after,
      (ingestNode tree node none).run before = (.ok summary, after) ∧
      summary.files.map Prod.fst = [first.text] ∧
      summary.duplicates = [second.text] := by
  unfold ingestNode
  rw [if_pos there]
  dsimp only
  rw [run_bind, run_lift, finds]
  dsimp only
  rw [run_bind, ingestFiles, run_bind, run_ingestFile, prints]
  simp only [List.contains_nil, Bool.false_eq_true, if_false, reads]
  rw [ingestFiles, run_bind, run_ingestFile, printsToo]
  simp only [List.contains_cons, BEq.rfl, Bool.true_or, if_true]
  exact ⟨_, _, rfl, rfl, rfl⟩

namespace EqualLines

/-- The one line of both files. -/
def line : List Char := "tick\n".toList

def fileOf (count : Nat) : Node :=
  .file ((List.replicate count line).flatten.map fun c => UInt8.ofNat c.toNat)

/-- A node with two log files, of which the second has one line more. -/
def tree : FileTree where
  nodes := [
    (["cluster"], .directory), (["cluster", "n1"], .directory),
    (["cluster", "n1", "logs"], .directory),
    (["cluster", "n1", "logs", "system.log"], fileOf 100),
    (["cluster", "n1", "logs", "system.log.1"], fileOf 101)]

def first : Path := ⟨.root, ["cluster", "n1", "logs", "system.log"]⟩

def second : Path := ⟨.root, ["cluster", "n1", "logs", "system.log.1"]⟩

theorem lines_first : tree.lines first = .ok (List.replicate 100 line) :=
  eq_ok_of_toOption (by decide +kernel)

theorem lines_second : tree.lines second = .ok (List.replicate 101 line) :=
  eq_ok_of_toOption (by decide +kernel)

theorem logFiles_node :
    tree.logFiles OneNode.node =
      .ok ([first, second], Appender.unconfigured) := by
  have unconfigured : tree.configurationLines OneNode.node = .ok [] := rfl
  have place : tree.locate (OneNode.node.child "logs") =
      some ["cluster", "n1", "logs"] := rfl
  have below : tree.below (OneNode.node.child "logs") = [first, second] := by
    rw [FileTree.below_of_pairwise place (by decide +kernel)]
    decide +kernel
  rw [FileTree.logFiles, unconfigured]
  simp only [bind, Except.bind, FileTree.filesMatching, below]
  exact eq_ok_of_toOption (by decide +kernel)

/-- The line that one file has more is among the first and the last hundred. -/
theorem fingerprintText_eq :
    FileTree.fingerprintText fingerprintLines.toNat (List.replicate 101 line) =
      FileTree.fingerprintText fingerprintLines.toNat
        (List.replicate 100 line) := by
  have count : fingerprintLines.toNat = 100 := rfl
  have more : min 100 101 = 100 := rfl
  have fewer : 101 - (101 - 100) = 100 - (100 - 100) := rfl
  rw [count]
  simp only [FileTree.fingerprintText, List.take_replicate,
    List.drop_replicate, List.length_replicate, more, Nat.min_self, fewer]

theorem lines_of_mem {path : Path} (member : path ∈ [first, second])
    {lines : List (List Char)} (reads : tree.lines path = .ok lines) :
    lines = List.replicate 100 line ∨ lines = List.replicate 101 line := by
  rcases List.mem_pair.mp member with rfl | rfl
  · rw [lines_first] at reads
    cases reads
    exact Or.inl rfl
  · rw [lines_second] at reads
    cases reads
    exact Or.inr rfl

theorem length_le {path : Path} (member : path ∈ [first, second])
    (lines : List (List Char)) (reads : tree.lines path = .ok lines) :
    lines.length ≤ 200 := by
  rcases lines_of_mem member reads with rfl | rfl <;> simp

/-- The same bytes are hashed for both files. -/
theorem hasNoCollisions : tree.HasNoCollisions [first, second] := by
  have bytes : ∀ path ∈ [first, second], ∀ lines,
      tree.lines path = .ok lines →
      FileTree.fingerprintBytes lines =
        FileTree.fingerprintBytes (List.replicate 100 line) := by
    intro path member lines reads
    rcases lines_of_mem member reads with rfl | rfl
    · rfl
    · exact congrArg Text.encodeUtf8 fingerprintText_eq
  intro path member other memberToo lines others reads readsToo _
  rw [bytes path member lines reads, bytes other memberToo others readsToo]

/-- The second file is skipped. -/
theorem returns :
    ∃ summary after,
      (Ingestion.ingestNode tree OneNode.node none).run { store := {} } =
        (.ok summary, after) ∧
      summary.files.map Prod.fst = [first.text] ∧
      summary.duplicates = [second.text] := by
  have prints := FileTree.fingerprint_eq_ok.mpr ⟨_, lines_first, rfl⟩
  have printsToo := FileTree.fingerprint_eq_ok.mpr ⟨_, lines_second, rfl⟩
  rw [fingerprintText_eq] at printsToo
  exact Ingestion.ingestNode_pair rfl logFiles_node prints printsToo
    (FileTree.entries_of_lines lines_first _) _

end EqualLines

/-- The text of a skipped file may be that of no file that was indexed. -/
theorem exists_lost_line :
    ∃ (tree : FileTree) (node : Path) (before after : Writing)
      (summary : NodeSummary) (paths : List Path) (appender : Appender),
      tree.logFiles node = .ok (paths, appender) ∧
      (∀ path ∈ paths, ∀ lines, tree.lines path = .ok lines →
        lines.length ≤ 200) ∧
      tree.HasNoCollisions paths ∧
      (Ingestion.ingestNode tree node none).run before =
        (.ok summary, after) ∧
      ∃ skipped ∈ paths, skipped.text ∈ summary.duplicates ∧
        ∃ lines, tree.lines skipped = .ok lines ∧
          ∀ indexed ∈ paths, indexed.text ∈ summary.files.map Prod.fst →
            ∀ others, tree.lines indexed = .ok others →
              others.flatten ≠ lines.flatten := by
  rcases EqualLines.returns with ⟨summary, after, returns, files, duplicates⟩
  refine ⟨EqualLines.tree, OneNode.node, _, after, summary, _, _,
    EqualLines.logFiles_node, fun path => EqualLines.length_le,
    EqualLines.hasNoCollisions, returns, EqualLines.second, by simp, ?_, _,
    EqualLines.lines_second, ?_⟩
  · rw [duplicates]
    exact List.mem_cons_self
  · intro indexed member written others reads
    rw [files] at written
    rcases List.mem_pair.mp member with rfl | rfl
    · rw [EqualLines.lines_first] at reads
      cases reads
      intro same
      have lengths := congrArg List.length same
      simp only [List.length_flatten, List.map_replicate,
        List.sum_replicate_nat] at lengths
      revert lengths
      decide
    · have apart : EqualLines.second.text ≠ EqualLines.first.text := by decide
      exact absurd (List.mem_singleton.mp written) apart

theorem Ingestion.ingestNode_duplicates_equalLines :
    ∃ summary after lines others,
      (ingestNode EqualLines.tree OneNode.node none).run { store := {} } =
        (.ok summary, after) ∧
      summary.duplicates = [EqualLines.second.text] ∧
      EqualLines.tree.lines EqualLines.second = .ok lines ∧
      EqualLines.tree.lines EqualLines.first = .ok others ∧
      FileTree.Repeats 100 lines others := by
  rcases EqualLines.returns with ⟨summary, after, returns, files, duplicates⟩
  have member : EqualLines.second.text ∈ summary.duplicates := by
    rw [duplicates]
    exact List.mem_cons_self
  have apart : EqualLines.first.text ≠ EqualLines.second.text := by decide
  rcases ingestNode_duplicates EqualLines.logFiles_node
    (fun path => EqualLines.length_le) EqualLines.hasNoCollisions returns
    EqualLines.second.text member with
    ⟨skipped, inside, indexed, insideToo, same, ⟨statistics, written⟩, lines,
      others, reads, readsToo, repeats⟩
  have indexedFirst : indexed.text = EqualLines.first.text := by
    have named : indexed.text ∈ summary.files.map Prod.fst :=
      List.mem_map.mpr ⟨_, written, rfl⟩
    rw [files] at named
    exact List.mem_singleton.mp named
  refine ⟨summary, after, lines, others, returns, duplicates, ?_, ?_, repeats⟩
  · rcases List.mem_pair.mp inside with rfl | rfl
    · exact absurd same apart
    · exact reads
  · rcases List.mem_pair.mp insideToo with rfl | rfl
    · exact readsToo
    · exact absurd indexedFirst.symm apart

end ClusterLog
