import ClusterLog.Ingest.Node
import ClusterLog.Proofs.Entry.Records
import ClusterLog.Proofs.Ingest.Readings
import ClusterLog.Proofs.Text.Utf8
import Mathlib.Data.List.SplitBy

/-!
# Records partition the lines

The texts of the records of a list of lines are the lines again, in order and
without a gap.  A record begins at every line that holds a severity name, and at
no other line except the first one.  Which of the three line ends a file uses
makes no difference to its entries.
-/

namespace ClusterLog

open Text

/-! ## Lines that begin a record -/

/-- The line holds the name of a severity. -/
def BeginsRecord (line : List Char) : Prop :=
  ∃ severity : Severity, severity.name.toList <:+: line

theorem firstKeyword?_isSome_iff {line : List Char} :
    (Severity.firstKeyword? line).isSome = true ↔ BeginsRecord line := by
  rw [Option.isSome_iff_ne_none, ne_eq, Severity.firstKeyword?_eq_none_iff,
    BeginsRecord]
  exact not_forall_not

instance : DecidablePred BeginsRecord :=
  fun _ => decidable_of_iff _ firstKeyword?_isSome_iff

theorem startsRecord_iff {line : List Char} (oneLine : IsOneLine line) :
    startsRecord line = true ↔ BeginsRecord line := by
  have whole : line.takeWhile (· != '\n') = line := by
    rw [List.takeWhile_eq_self_iff]
    intro c inside
    simp [(oneLine c inside).2]
  rw [startsRecord, whole, firstKeyword?_isSome_iff]

/-! ## Groups of lines -/

/-- Lines cut in front of each line that begins a record. -/
def recordGroups (lines : List (List Char)) : List (List (List Char)) :=
  lines.splitBy fun _ next => !decide (BeginsRecord next)

namespace Accumulator

/-- The accumulator cuts lines where groups of them are cut. -/
theorem run_eq_loop {lines : List (List Char)}
    (oneLine : ∀ line ∈ lines, IsOneLine line) (last : List Char)
    (pending : List (List Char)) (groups : List (List (List Char))) :
    (List.splitBy.loop (fun _ next => !decide (BeginsRecord next)) lines last
        pending groups).map joinLines =
      groups.reverse.map joinLines ++ run ⟨last :: pending⟩ lines := by
  induction lines generalizing last pending groups with
  | nil =>
      simp [List.splitBy.loop, run, flush, text, joinLines]
  | cons line lines ih =>
      have others : ∀ other ∈ lines, IsOneLine other :=
        fun other member => oneLine other (by simp [member])
      have whole := withoutLineEnd_of_oneLine (oneLine line (by simp))
      have starts := startsRecord_iff (oneLine line (by simp))
      rw [List.splitBy.loop]
      by_cases begins : BeginsRecord line
      · have completed : joinLines (pending.reverse ++ [last]) =
            text ⟨last :: pending⟩ := by
          simp [text, joinLines]
        simp [begins, ih others, run, feed, whole, starts.mpr begins,
          completed]
      · have silent : startsRecord line = false :=
          Bool.eq_false_iff.mpr (mt starts.mp begins)
        simp [begins, ih others, run, feed, whole, silent]

end Accumulator

theorem recordTexts_eq_map_joinLines {lines : List (List Char)}
    (oneLine : ∀ line ∈ lines, IsOneLine line) :
    recordTexts lines = (recordGroups lines).map joinLines := by
  cases lines with
  | nil => rfl
  | cons line lines =>
      have others : ∀ other ∈ lines, IsOneLine other :=
        fun other member => oneLine other (by simp [member])
      have whole := withoutLineEnd_of_oneLine (oneLine line (by simp))
      have first : recordTexts (line :: lines) =
          Accumulator.run ⟨[line]⟩ lines := by
        simp [recordTexts, Accumulator.run, Accumulator.feed, whole]
      rw [first, recordGroups, List.splitBy,
        Accumulator.run_eq_loop others]
      rfl

/-- In a chain each member but the first follows another one. -/
theorem of_mem_tail_of_isChain {α : Type} {p : α → Prop} {members : List α}
    (chain : members.IsChain fun _ next => p next) :
    ∀ member ∈ members.tail, p member := by
  induction members with
  | nil => simp
  | cons first members ih =>
      intro member inside
      rw [List.isChain_cons] at chain
      cases members with
      | nil => cases inside
      | cons second members =>
          rcases List.mem_cons.mp inside with rfl | later
          · exact chain.1 member rfl
          · exact ih chain.2 member later

theorem not_beginsRecord_of_mem_tail {lines group : List (List Char)}
    (member : group ∈ recordGroups lines) :
    ∀ line ∈ group.tail, ¬ BeginsRecord line := by
  have chain := List.isChain_of_mem_splitBy member
  apply of_mem_tail_of_isChain
  simpa using chain

theorem beginsRecord_head_of_mem_tail {lines group : List (List Char)}
    (member : group ∈ (recordGroups lines).tail) :
    ∃ first ∈ group.head?, BeginsRecord first := by
  have chain := List.isChain_getLast_head_splitBy
    (fun _ next => !decide (BeginsRecord next)) lines
  have begun : (recordGroups lines).IsChain fun _ next =>
      ∃ first ∈ next.head?, BeginsRecord first := by
    refine chain.imp ?_
    rintro _ next ⟨-, nonempty, begins⟩
    exact ⟨next.head nonempty, List.head?_eq_some_head nonempty,
      by simpa using begins⟩
  exact of_mem_tail_of_isChain begun group member

theorem flatten_recordGroups (lines : List (List Char)) :
    (recordGroups lines).flatten = lines :=
  List.flatten_splitBy _ lines

theorem isOneLine_of_mem_recordGroups {lines group : List (List Char)}
    (oneLine : ∀ line ∈ lines, IsOneLine line)
    (member : group ∈ recordGroups lines) :
    ∀ line ∈ group, IsOneLine line := by
  intro line inside
  apply oneLine
  rw [← flatten_recordGroups lines]
  exact List.mem_flatten_of_mem member inside

/-- A group has a line that begins a record only in its first place. -/
theorem countP_beginsRecord_group {lines group : List (List Char)}
    (member : group ∈ recordGroups lines) :
    group.countP (BeginsRecord ·) =
      if ∃ first ∈ group.head?, BeginsRecord first then 1 else 0 := by
  have silent := not_beginsRecord_of_mem_tail member
  cases group with
  | nil => rfl
  | cons first more =>
      have none : more.countP (BeginsRecord ·) = 0 :=
        List.countP_eq_zero.mpr fun line inside => by
          simpa using silent line inside
      simp [List.countP_cons, none]

theorem countP_beginsRecord_flatten {groups : List (List (List Char))}
    (each : ∀ group ∈ groups, group.countP (BeginsRecord ·) = 1) :
    groups.flatten.countP (BeginsRecord ·) = groups.length := by
  rw [List.countP_flatten, List.map_congr_left each, List.map_const',
    List.sum_replicate_nat, Nat.mul_one]

/-- Each group but the first has a line that begins a record. -/
theorem length_recordGroups (lines : List (List Char)) :
    (recordGroups lines).length = lines.countP (BeginsRecord ·) +
      if ∃ first ∈ lines.head?, ¬ BeginsRecord first then 1 else 0 := by
  have joined := flatten_recordGroups lines
  have counted := @countP_beginsRecord_group lines
  have started := @beginsRecord_head_of_mem_tail lines
  have nonempty : [] ∉ recordGroups lines := List.nil_notMem_splitBy _ lines
  generalize recordGroups lines = groups at *
  subst joined
  cases groups with
  | nil => rfl
  | cons group others =>
      cases group with
      | nil => simp at nonempty
      | cons first more =>
          have each : ∀ other ∈ others, other.countP (BeginsRecord ·) = 1 := by
            intro other member
            rw [counted (List.mem_cons_of_mem _ member),
              if_pos (started member)]
          have own := counted List.mem_cons_self
          rw [List.flatten_cons, List.countP_append, own,
            countP_beginsRecord_flatten each]
          by_cases begins : BeginsRecord first
          · simp [begins, Nat.add_comm]
          · simp [begins]

/-- The lines of a text, without what ends them. -/
def textLines (text : List Char) : List (List Char) :=
  (fileLines text).map withoutLineEnd

theorem textLines_joinLines {lines : List (List Char)}
    (oneLine : ∀ line ∈ lines, IsOneLine line) :
    textLines (joinLines lines) = lines := by
  rw [textLines, fileLines_joinLines oneLine,
    map_withoutLineEnd_append oneLine (by simp)]

/-! ## Entries of files -/

/-- The entries of a log file whose records are read by a parser. -/
def FileTree.entriesBy (tree : FileTree) (path : Path)
    (parse : List Char → Entry) : Except Failure (List Entry) := do
  if tree.isFile path then
    return (recordTexts (← tree.lines path)).map parse
  else
    throw (.logFileNotFound path.text)

theorem FileTree.entriesBy_ofText (tree : FileTree) (path : Path)
    (grammar : Layout.Grammar) :
    tree.entriesBy path (Entry.ofText grammar) = tree.entries path grammar :=
  rfl

theorem FileTree.lines_written {tree : FileTree} {path : Path}
    {lines : List (List Char)} (oneLine : ∀ line ∈ lines, IsOneLine line)
    {ending : LineEnd} (plain : isCompressed path = false)
    (there : tree.find? path =
      some (.file (encodeUtf8 (lines.flatMap (· ++ ending.text))))) :
    tree.lines path = .ok (lines.map (· ++ ['\n'])) := by
  have read : fileLines (lines.flatMap (· ++ ending.text)) =
      lines.map (· ++ ['\n']) :=
    calc
      fileLines (lines.flatMap (· ++ ending.text)) =
          cutAfterLineFeeds (joinLines lines) :=
        congrArg cutAfterLineFeeds (unifyLineEnds_written oneLine ending)
      _ = fileLines (joinLines lines) :=
        (congrArg cutAfterLineFeeds
          (unifyLineEnds_written oneLine .lineFeed)).symm
      _ = lines.map (· ++ ['\n']) := fileLines_joinLines oneLine
  simp [FileTree.lines, FileTree.bytes, there, plain, decodeUtf8_encodeUtf8,
    read, pure, Except.pure, bind, Except.bind]

/-- Lines that are written to a file and read back belong to the same records
as the lines themselves. -/
theorem FileTree.entriesBy_written {tree : FileTree} {path : Path}
    {lines : List (List Char)} (oneLine : ∀ line ∈ lines, IsOneLine line)
    {ending : LineEnd} (plain : isCompressed path = false)
    (there : tree.find? path =
      some (.file (encodeUtf8 (lines.flatMap (· ++ ending.text)))))
    (parse : List Char → Entry) :
    tree.entriesBy path parse = .ok ((recordTexts lines).map parse) := by
  have isThere : tree.isFile path = true := by
    simp [FileTree.isFile, there]
  have same : recordTexts (lines.map (· ++ ['\n'])) = recordTexts lines := by
    rw [recordTexts, ← Accumulator.run_map_withoutLineEnd,
      map_withoutLineEnd_append oneLine (by simp), recordTexts]
  rw [FileTree.entriesBy, if_pos isThere, lines_written oneLine plain there,
    ← same]
  rfl

/-! ## The partition -/

/-- The texts of the records are the lines again, a record begins at each line
that holds a severity name and at no other line but the first, and a file with
these lines has the same entries, whatever ends its lines. -/
theorem recordTexts_partition (parse : List Char → Entry)
    (lines : List (List Char)) (oneLine : ∀ line ∈ lines, IsOneLine line) :
    (recordTexts lines).flatten = lines.flatMap (· ++ ['\n']) ∧
      (∀ text ∈ (recordTexts lines).tail,
        ∃ first ∈ (textLines text).head?, BeginsRecord first) ∧
      (∀ text ∈ recordTexts lines, text ≠ [] ∧
        ∀ line ∈ (textLines text).tail, ¬ BeginsRecord line) ∧
      ((recordTexts lines).map parse).length =
        lines.countP (BeginsRecord ·) +
          (if ∃ first ∈ lines.head?, ¬ BeginsRecord first then 1 else 0) ∧
      (∀ accumulator : Accumulator, accumulator.flush.2 = {}) ∧
      ∀ (tree : FileTree) (path : Path) (ending : LineEnd),
        FileTree.isCompressed path = false →
        tree.find? path =
          some (.file (encodeUtf8 (lines.flatMap (· ++ ending.text)))) →
        tree.entriesBy path parse = .ok ((recordTexts lines).map parse) ∧
          ∀ grammar,
            tree.entries path grammar = .ok (entriesOfLines grammar lines) := by
  have texts := recordTexts_eq_map_joinLines oneLine
  have linesOf : ∀ group ∈ recordGroups lines,
      textLines (joinLines group) = group := fun group member =>
    textLines_joinLines (isOneLine_of_mem_recordGroups oneLine member)
  refine ⟨?whole, ?begun, ?silent, ?count, ?flushed, ?read⟩
  case whole =>
    rw [texts, ← joinLines_flatten, flatten_recordGroups, joinLines]
  case begun =>
    intro text member
    rw [texts, ← List.map_tail] at member
    rcases List.mem_map.mp member with ⟨group, inside, rfl⟩
    rw [linesOf group (List.mem_of_mem_tail inside)]
    exact beginsRecord_head_of_mem_tail inside
  case silent =>
    intro text member
    rw [texts] at member
    rcases List.mem_map.mp member with ⟨group, inside, rfl⟩
    constructor
    · intro empty
      have none := linesOf group inside
      rw [empty] at none
      exact List.ne_nil_of_mem_splitBy inside none.symm
    · rw [linesOf group inside]
      exact not_beginsRecord_of_mem_tail inside
  case count =>
    rw [texts, List.length_map, List.length_map, length_recordGroups]
  case flushed =>
    rintro ⟨pending⟩
    cases pending <;> rfl
  case read =>
    intro tree path ending plain there
    have read := FileTree.entriesBy_written oneLine plain there
    refine ⟨read parse, fun grammar => ?_⟩
    rw [← FileTree.entriesBy_ofText]
    exact read (Entry.ofText grammar)

/-- The rest of a record, a record of two lines and one of a single line. -/
def rotatedLines : List (List Char) :=
  ["\tat Server.run".toList, "ERROR [main] boom".toList, "\tat Main".toList,
    "done, INFO".toList]

theorem recordTexts_partition_rotated :
    (recordTexts rotatedLines).length = 3 ∧
      (FileTree.entriesBy
          { nodes := [(["n.log"], .file
              (encodeUtf8 (rotatedLines.flatMap (· ++ ['\r', '\n']))))] }
          ⟨.root, ["n.log"]⟩
          (Entry.ofText (Layout.compile Layout.stock))) =
        .ok ((recordTexts rotatedLines).map
          (Entry.ofText (Layout.compile Layout.stock))) := by
  have partition := recordTexts_partition
    (Entry.ofText (Layout.compile Layout.stock)) rotatedLines (by decide)
  rcases partition with ⟨-, -, -, count, -, read⟩
  constructor
  · have three : rotatedLines.countP (BeginsRecord ·) +
        (if ∃ first ∈ rotatedLines.head?, ¬ BeginsRecord first then 1 else 0) =
          3 := by
      decide
    rw [three, List.length_map] at count
    exact count
  · exact (read _ ⟨.root, ["n.log"]⟩ .both (by decide) rfl).1

end ClusterLog
