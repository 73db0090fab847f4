import ClusterLog.Entry.Record
import ClusterLog.Proofs.Severity
import ClusterLog.Proofs.Text.Lines
import ClusterLog.Proofs.Text.Trim

/-!
# Records of several lines

Physical lines that consist of blocks, each of them a line that begins a record
and lines that do not, are cut into exactly these blocks.  The line ends of the
physical lines do not matter.
-/

namespace ClusterLog

open Text

/-! ## Line ends -/

theorem withoutLineEnd_append {line ending : List Char}
    (oneLine : IsOneLine line)
    (ends : ∀ c ∈ ending, c = '\r' ∨ c = '\n') :
    withoutLineEnd (line ++ ending) = line := by
  apply dropEndWhile_append_of_all
  · intro c inside
    rcases ends c inside with rfl | rfl <;> rfl
  · intro c last
    have plain := oneLine c (List.mem_of_getLast? last)
    simp [plain.1, plain.2]

theorem withoutLineEnd_of_oneLine {line : List Char}
    (oneLine : IsOneLine line) :
    withoutLineEnd line = line := by
  have unchanged : withoutLineEnd (line ++ []) = line :=
    withoutLineEnd_append oneLine (by simp)
  simpa using unchanged

/-- Lines lose the line ends that were written behind them. -/
theorem map_withoutLineEnd_append
    {lines : List (List Char)} {ending : List Char}
    (oneLine : ∀ line ∈ lines, IsOneLine line)
    (ends : ∀ c ∈ ending, c = '\r' ∨ c = '\n') :
    (lines.map (· ++ ending)).map withoutLineEnd = lines := by
  rw [List.map_map]
  calc
    lines.map (withoutLineEnd ∘ (· ++ ending)) = lines.map id :=
      List.map_congr_left fun line member =>
        withoutLineEnd_append (oneLine line member) ends
    _ = lines := List.map_id lines

@[simp]
theorem withoutLineEnd_idem (line : List Char) :
    withoutLineEnd (withoutLineEnd line) = withoutLineEnd line := by
  apply dropEndWhile_of_last
  intro c last
  rw [withoutLineEnd, dropEndWhile, List.getLast?_reverse] at last
  simpa using head_dropWhile (fun c => c == '\r' || c == '\n') line.reverse c last

/-- A line without a severity name continues the record before it. -/
theorem startsRecord_eq_false {line : List Char}
    (foreign : ∀ severity : Severity, ¬ severity.name.toList <:+: line) :
    startsRecord line = false := by
  have nowhere : Severity.firstKeyword? (line.takeWhile (· != '\n')) = none :=
    Severity.firstKeyword?_eq_none_iff.mpr fun severity inside =>
      foreign severity (inside.trans (List.takeWhile_prefix _).isInfix)
  simp [startsRecord, nowhere]

/-- A line with a severity name at its beginning begins a record. -/
theorem startsRecord_name {severity : Severity} {rest : List Char}
    (oneLine : IsOneLine (severity.name.toList ++ rest)) :
    startsRecord (severity.name.toList ++ rest) = true := by
  have whole : (severity.name.toList ++ rest).takeWhile (· != '\n') =
      severity.name.toList ++ rest := by
    rw [List.takeWhile_eq_self_iff]
    intro c inside
    simp [(oneLine c inside).2]
  simp [startsRecord, whole, Severity.firstKeyword?_name]

/-! ## Blocks of lines -/

namespace Accumulator

theorem text_eq_joinLines (lines : List (List Char)) :
    text ⟨lines.reverse⟩ = joinLines lines := by
  simp [text, joinLines]

theorem run_map_withoutLineEnd (accumulator : Accumulator)
    (physical : List (List Char)) :
    accumulator.run (physical.map withoutLineEnd) =
      accumulator.run physical := by
  induction physical generalizing accumulator with
  | nil => rfl
  | cons line physical ih => simp [run, feed, ih]

/-- Lines that begin no record join the lines before them. -/
theorem run_continuations {lines : List (List Char)}
    (quiet : ∀ line ∈ lines,
      withoutLineEnd line = line ∧ startsRecord line = false)
    (pending rest : List (List Char)) :
    run ⟨pending⟩ (lines ++ rest) =
      run ⟨lines.reverse ++ pending⟩ rest := by
  induction lines generalizing pending with
  | nil => rfl
  | cons line lines ih =>
      obtain ⟨whole, silent⟩ := quiet line (by simp)
      have others : ∀ other ∈ lines,
          withoutLineEnd other = other ∧ startsRecord other = false :=
        fun other member => quiet other (by simp [member])
      have step : run ⟨pending⟩ (line :: (lines ++ rest)) =
          run ⟨line :: pending⟩ (lines ++ rest) := by
        simp [run, feed, whole, silent]
      rw [List.cons_append, step, ih others]
      simp

/-- A line that begins a record completes the record before it. -/
theorem run_start {line : List Char}
    (whole : withoutLineEnd line = line)
    (starts : startsRecord line = true)
    (pending rest : List (List Char)) :
    run ⟨pending⟩ (line :: rest) =
      (flush ⟨pending⟩).1.toList ++ run ⟨[line]⟩ rest := by
  cases pending with
  | nil => simp [run, feed, flush, whole]
  | cons last pending => simp [run, feed, flush, whole, starts]

end Accumulator

/-- The lines of one record: the line that begins it, and the others. -/
structure RecordLines where
  first : List Char
  more : List (List Char)
  first_starts : startsRecord first = true
  first_whole : withoutLineEnd first = first
  more_continue : ∀ line ∈ more,
    withoutLineEnd line = line ∧ startsRecord line = false

namespace RecordLines

/-- All lines of a record. -/
def lines (block : RecordLines) : List (List Char) :=
  block.first :: block.more

theorem run_blocks (pending : List (List Char))
    (blocks : List RecordLines) :
    Accumulator.run ⟨pending⟩ (blocks.flatMap (·.lines)) =
      (Accumulator.flush ⟨pending⟩).1.toList ++
        blocks.map fun block => joinLines block.lines := by
  induction blocks generalizing pending with
  | nil => simp [Accumulator.run]
  | cons block blocks ih =>
      have nonempty : (block.more.reverse ++ [block.first]).isEmpty = false := by
        simp
      have text : Accumulator.text ⟨block.more.reverse ++ [block.first]⟩ =
          joinLines block.lines := by
        simpa [lines] using Accumulator.text_eq_joinLines block.lines
      have last : Accumulator.flush ⟨block.more.reverse ++ [block.first]⟩ =
          (some (joinLines block.lines), ⟨[]⟩) := by
        simp [Accumulator.flush, text]
      rw [List.flatMap_cons, lines, List.cons_append,
        Accumulator.run_start block.first_whole block.first_starts,
        Accumulator.run_continuations block.more_continue, ih, last]
      simp [lines]

/-- Physical lines are cut into the records that they consist of. -/
theorem recordTexts_eq {physical : List (List Char)}
    {blocks : List RecordLines}
    (consists : physical.map withoutLineEnd = blocks.flatMap (·.lines)) :
    recordTexts physical =
      blocks.map fun block => joinLines block.lines := by
  rw [recordTexts, ← Accumulator.run_map_withoutLineEnd, consists,
    run_blocks]
  rfl

end RecordLines

end ClusterLog
