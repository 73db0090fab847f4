import ClusterLog.Proofs.Text.Class
import ClusterLog.Text.Lines

/-!
# Laws of lines

A text that is written line by line, each line with a line feed behind it, is
cut into these lines again.
-/

namespace ClusterLog.Text

/-- The text has no line end in it. -/
def IsOneLine (text : List Char) : Prop :=
  ∀ c ∈ text, c ≠ '\r' ∧ c ≠ '\n'

instance (text : List Char) : Decidable (IsOneLine text) :=
  inferInstanceAs (Decidable (∀ c ∈ text, c ≠ '\r' ∧ c ≠ '\n'))

theorem IsOneLine.append {first second : List Char}
    (firstLine : IsOneLine first) (secondLine : IsOneLine second) :
    IsOneLine (first ++ second) := by
  intro c inside
  rcases List.mem_append.mp inside with before | after
  · exact firstLine c before
  · exact secondLine c after

theorem IsOneLine.cons {c : Char} {text : List Char}
    (plain : c ≠ '\r' ∧ c ≠ '\n') (oneLine : IsOneLine text) :
    IsOneLine (c :: text) := by
  intro d inside
  rcases List.mem_cons.mp inside with rfl | other
  · exact plain
  · exact oneLine d other

/-- Lines with a line feed behind each of them. -/
def joinLines (lines : List (List Char)) : List Char :=
  lines.flatMap fun line => line ++ ['\n']

theorem joinLines_flatten (groups : List (List (List Char))) :
    joinLines groups.flatten = (groups.map joinLines).flatten := by
  induction groups with
  | nil => rfl
  | cons group groups ih => simp [joinLines, ← ih]

theorem unifyLineEnds_of_no_return {text : List Char}
    (plain : ∀ c ∈ text, c ≠ '\r') :
    unifyLineEnds text = text := by
  induction text with
  | nil => rfl
  | cons c text ih =>
      have first : c ≠ '\r' := plain c (by simp)
      have others : ∀ d ∈ text, d ≠ '\r' :=
        fun d inside => plain d (by simp [inside])
      simp [unifyLineEnds, first, ih others]

theorem cutAfterLineFeeds_line {line : List Char}
    (unbroken : '\n' ∉ line) (rest : List Char) :
    cutAfterLineFeeds (line ++ '\n' :: rest) =
      (line ++ ['\n']) :: cutAfterLineFeeds rest := by
  induction line with
  | nil => simp [cutAfterLineFeeds]
  | cons c line ih =>
      have first : c ≠ '\n' := (List.ne_of_not_mem_cons unbroken).symm
      have others : '\n' ∉ line := List.not_mem_of_not_mem_cons unbroken
      simp [cutAfterLineFeeds, ih others]

theorem cutAfterLineFeeds_last {line : List Char} (nonempty : line ≠ [])
    (unbroken : '\n' ∉ line) :
    cutAfterLineFeeds line = [line] := by
  induction line with
  | nil => exact absurd rfl nonempty
  | cons c line ih =>
      have first : c ≠ '\n' := (List.ne_of_not_mem_cons unbroken).symm
      cases line with
      | nil => simp [cutAfterLineFeeds]
      | cons d line =>
          have others := ih (by simp) (List.not_mem_of_not_mem_cons unbroken)
          rw [cutAfterLineFeeds, others]
          exact first

/-- The lines of a written file are the lines that were written. -/
theorem fileLines_joinLines {lines : List (List Char)}
    (oneLine : ∀ line ∈ lines, IsOneLine line) :
    fileLines (joinLines lines) = lines.map (· ++ ['\n']) := by
  have plain : ∀ c ∈ joinLines lines, c ≠ '\r' := by
    intro c inside
    simp only [joinLines, List.mem_flatMap, List.mem_append,
      List.mem_singleton] at inside
    rcases inside with ⟨line, member, before | rfl⟩
    · exact (oneLine line member c before).1
    · decide
  rw [fileLines, unifyLineEnds_of_no_return plain]
  clear plain
  induction lines with
  | nil => rfl
  | cons line lines ih =>
      have first : '\n' ∉ line :=
        fun inside => (oneLine line (by simp) _ inside).2 rfl
      have others : ∀ other ∈ lines, IsOneLine other :=
        fun other member => oneLine other (by simp [member])
      have split : joinLines (line :: lines) =
          line ++ '\n' :: joinLines lines := by
        simp [joinLines]
      rw [split, cutAfterLineFeeds_line first, ih others, List.map_cons]

/-! ## Line ends of files -/

/-- What ends the lines of a file. -/
inductive LineEnd where
  | lineFeed
  | carriageReturn
  | both

/-- The characters of a line end. -/
def LineEnd.text : LineEnd → List Char
  | .lineFeed => ['\n']
  | .carriageReturn => ['\r']
  | .both => ['\r', '\n']

theorem unifyLineEnds_line {line : List Char} (oneLine : IsOneLine line)
    (rest : List Char) :
    unifyLineEnds (line ++ rest) = line ++ unifyLineEnds rest := by
  induction line with
  | nil => rfl
  | cons c line ih =>
      have first : c ≠ '\r' := (oneLine c (by simp)).1
      have others : IsOneLine line :=
        fun d inside => oneLine d (by simp [inside])
      simp [unifyLineEnds, first, ih others]

theorem unifyLineEnds_return {rest : List Char}
    (unfed : rest.head? ≠ some '\n') :
    unifyLineEnds ('\r' :: rest) = '\n' :: unifyLineEnds rest := by
  cases rest with
  | nil => rfl
  | cons c rest =>
      have other : c ≠ '\n' := by simpa using unfed
      simp [unifyLineEnds, other]

/-- Whatever ends the lines of a file, it is read as a line feed. -/
theorem unifyLineEnds_written {lines : List (List Char)}
    (oneLine : ∀ line ∈ lines, IsOneLine line) (ending : LineEnd) :
    unifyLineEnds (lines.flatMap (· ++ ending.text)) = joinLines lines := by
  induction lines with
  | nil => rfl
  | cons line lines ih =>
      have others : ∀ other ∈ lines, IsOneLine other :=
        fun other member => oneLine other (by simp [member])
      rw [List.flatMap_cons, List.append_assoc,
        unifyLineEnds_line (oneLine line (by simp))]
      have step : unifyLineEnds
          (ending.text ++ lines.flatMap (· ++ ending.text)) =
            '\n' :: unifyLineEnds (lines.flatMap (· ++ ending.text)) := by
        cases ending with
        | lineFeed => rfl
        | both => rfl
        | carriageReturn =>
            apply unifyLineEnds_return
            intro fed
            have inside : '\n' ∈ lines.flatMap (· ++ ['\r']) :=
              List.mem_of_mem_head? fed
            rcases List.mem_flatMap.mp inside with ⟨other, member, within⟩
            rcases List.mem_append.mp within with within | last
            · exact (others other member _ within).2 rfl
            · simp at last
      rw [step, ih others]
      simp [joinLines]

/-! ## Physical lines -/

/-- The lines of a text, each with its line feed, which the last one may lack. -/
inductive AreLines : List (List Char) → Prop
  | nil : AreLines []
  | last {line : List Char} (nonempty : line ≠ []) (unbroken : '\n' ∉ line) :
      AreLines [line]
  | cons {line : List Char} {lines : List (List Char)}
      (unbroken : '\n' ∉ line) (others : AreLines lines) :
      AreLines ((line ++ ['\n']) :: lines)

theorem areLines_cutAfterLineFeeds (text : List Char) :
    AreLines (cutAfterLineFeeds text) := by
  induction text with
  | nil => exact .nil
  | cons c text ih =>
      by_cases feed : c = '\n'
      · subst feed
        exact .cons List.not_mem_nil ih
      · simp only [cutAfterLineFeeds]
        generalize cutAfterLineFeeds text = lines at ih
        have outside : ∀ {line : List Char}, '\n' ∉ line → '\n' ∉ c :: line :=
          fun unbroken => List.not_mem_cons_of_ne_of_not_mem (Ne.symm feed)
            unbroken
        cases ih with
        | nil => exact .last (by simp) (outside List.not_mem_nil)
        | last nonempty unbroken => exact .last (by simp) (outside unbroken)
        | cons unbroken others => exact .cons (outside unbroken) others

namespace AreLines

variable {lines : List (List Char)}

theorem drop (are : AreLines lines) (count : Nat) :
    AreLines (lines.drop count) := by
  induction count generalizing lines with
  | zero => exact are
  | succ count ih =>
      cases are with
      | nil => exact .nil
      | last =>
          rw [List.drop_succ_cons, List.drop_nil]
          exact .nil
      | cons _ others => exact ih others

theorem count_le (are : AreLines lines) :
    lines.flatten.count '\n' ≤ lines.length ∧
      lines.length ≤ lines.flatten.count '\n' + 1 := by
  induction are with
  | nil => simp
  | last _ unbroken => simp [List.count_eq_zero_of_not_mem unbroken]
  | cons unbroken _ ih =>
      simp [List.count_eq_zero_of_not_mem unbroken]
      omega

/-- All lines but the last one have their line feed. -/
theorem count_take (are : AreLines lines) {count : Nat}
    (fewer : count < lines.length) :
    (lines.take count).flatten.count '\n' = count := by
  induction are generalizing count with
  | nil => cases fewer
  | last =>
      obtain rfl : count = 0 := by simpa using fewer
      rfl
  | cons unbroken _ ih =>
      cases count with
      | zero => rfl
      | succ count =>
          have behind := ih (Nat.lt_of_succ_lt_succ fewer)
          simp [List.count_eq_zero_of_not_mem unbroken, behind]

/-- Lines that all have their line feed stand at the beginning of a text. -/
theorem cutAfterLineFeeds_take (are : AreLines lines) {count : Nat}
    (complete : (lines.take count).flatten.count '\n' = count)
    (rest : List Char) :
    cutAfterLineFeeds ((lines.take count).flatten ++ rest) =
      lines.take count ++ cutAfterLineFeeds rest := by
  induction are generalizing count with
  | nil => simp
  | last _ unbroken =>
      cases count with
      | zero => rfl
      | succ count =>
          rw [List.take_succ_cons, List.take_nil, List.flatten_singleton,
            List.count_eq_zero_of_not_mem unbroken] at complete
          cases complete
  | @cons line lines unbroken _ ih =>
      cases count with
      | zero => rfl
      | succ count =>
          have behind : (lines.take count).flatten.count '\n' = count := by
            simpa [List.count_eq_zero_of_not_mem unbroken] using complete
          have split : ((line ++ ['\n']) :: lines.take count).flatten ++ rest =
              line ++ '\n' :: ((lines.take count).flatten ++ rest) := by
            simp
          rw [List.take_succ_cons, split, cutAfterLineFeeds_line unbroken,
            ih behind]
          rfl

/-- The lines of a text are cut again. -/
theorem cutAfterLineFeeds_flatten (are : AreLines lines) :
    cutAfterLineFeeds lines.flatten = lines := by
  induction are with
  | nil => rfl
  | last nonempty unbroken =>
      rw [List.flatten_singleton]
      exact cutAfterLineFeeds_last nonempty unbroken
  | @cons line lines unbroken _ ih =>
      have split : ((line ++ ['\n']) :: lines).flatten =
          line ++ '\n' :: lines.flatten := by
        simp
      rw [split, cutAfterLineFeeds_line unbroken, ih]

end AreLines

end ClusterLog.Text
