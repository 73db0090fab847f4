import ClusterLog.Layout.Grammar
import ClusterLog.Proofs.Pattern.Matching
import ClusterLog.Proofs.Text.Class
import ClusterLog.Proofs.Text.Find

/-!
# Laws of layout pieces

The fields of a layout are numbered in the order of their first places.  In a
match each piece takes the text that was written for it, provided that what
follows goes on behind this text.
-/

namespace ClusterLog.Layout

open Text

/-! ## Positions -/

/-- The field that a token places. -/
def Token.field? : Token → Option Field
  | .field placed => some placed
  | _ => none

/-- Fields with their ordinals, each at its first place. -/
def numbered : List Field → List Field → List (Field × Nat)
  | _, [] => []
  | seen, field :: fields =>
    if field ∈ seen then numbered seen fields
    else (field, seen.length + 1) :: numbered (field :: seen) fields

theorem positions_piecesFrom (seen : List Field) (tokens : List Token) :
    (piecesFrom seen tokens).filterMap (·.position?) =
      numbered seen (tokens.filterMap (·.field?)) := by
  induction tokens generalizing seen with
  | nil => rfl
  | cons token tokens ih =>
      cases token with
      | field field =>
          have fields : (Token.field field :: tokens).filterMap (·.field?) =
              field :: tokens.filterMap (·.field?) := rfl
          rw [piecesFrom, fields, numbered]
          by_cases known : field ∈ seen
          · rw [if_pos (by simpa using known), if_pos known]
            exact ih seen
          · rw [if_neg (by simpa using known), if_neg known, ← ih]
            rfl
      | thread => exact ih seen
      | nothing => exact ih seen
      | other => exact ih seen
      | space => exact ih seen
      | literal c => exact ih seen

/-- The ordinals go up by one. -/
theorem ordinals_numbered (seen fields : List Field) :
    (numbered seen fields).map Prod.snd =
      List.range' (seen.length + 1) (numbered seen fields).length := by
  induction fields generalizing seen with
  | nil => rfl
  | cons field fields ih =>
      rw [numbered]
      split
      · exact ih seen
      · simp [List.range'_succ, ih]

theorem nodup_ordinals_numbered (seen fields : List Field) :
    ((numbered seen fields).map Prod.snd).Nodup := by
  rw [ordinals_numbered]
  exact List.nodup_range'

/-- Each field has a place, unless it was seen before. -/
theorem mem_numbered_iff {seen fields : List Field} {field : Field} :
    field ∈ (numbered seen fields).map Prod.fst ↔
      field ∈ fields ∧ field ∉ seen := by
  induction fields generalizing seen with
  | nil => simp [numbered]
  | cons first fields ih =>
      rw [numbered]
      split
      · rename_i known
        rw [ih]
        by_cases same : field = first
        · subst same
          simp [known]
        · simp [same]
      · rename_i fresh
        rw [List.map_cons, List.mem_cons, ih]
        by_cases same : field = first
        · subst same
          simp [fresh]
        · simp [same]

theorem nodup_fields_numbered (seen fields : List Field) :
    ((numbered seen fields).map Prod.fst).Nodup := by
  induction fields generalizing seen with
  | nil => exact List.nodup_nil
  | cons field fields ih =>
      rw [numbered]
      split
      · exact ih seen
      · refine List.nodup_cons.mpr ⟨?_, ih (field :: seen)⟩
        intro again
        exact (mem_numbered_iff.mp again).2 List.mem_cons_self

/-! ## Matches of pieces -/

section Matching

variable {α : Type} {total ordinal : Nat} {others : List Pattern}
variable {captures : Captures} {next : List Char → Captures → Option α}
variable {found : α} {rest : List Char}

/-- A space takes the blanks that are there, and those of the text behind. -/
theorem match?_space {gap : List Char} (blank : ∀ c ∈ gap, isBlank c = true)
    (goesOn : (Pattern.sequence others).match? total (rest.dropWhile isBlank)
      captures next = some found) :
    (Pattern.sequence (Piece.space.patterns ++ others)).match? total
      (gap ++ rest) captures next = some found := by
  have run : ∀ c ∈ gap ++ rest.takeWhile isBlank, isBlank c = true := by
    intro c inside
    rcases List.mem_append.mp inside with before | behind
    · exact blank c before
    · exact List.mem_takeWhile_imp behind
  rw [Piece.patterns, List.singleton_append, Pattern.match?_sequence_cons,
    ← List.takeWhile_append_dropWhile (p := isBlank) (l := rest),
    ← List.append_assoc]
  exact Pattern.match?_greedyRun run (Nat.zero_le _) (head_dropWhile _ _)
    goesOn

theorem match?_level {level : List Char}
    (word : ∀ c ∈ level, isWord c = true) (nonempty : level ≠ [])
    (stops : ∀ c ∈ rest.head?, isWord c = false)
    (goesOn : (Pattern.sequence others).match? total rest
      ((ordinal, level) :: captures) next = some found) :
    (Pattern.sequence ((Piece.first .level ordinal).patterns ++ others)).match?
      total (level ++ rest) captures next = some found := by
  rw [Piece.patterns, Field.tail, List.singleton_append,
    Pattern.match?_sequence_cons]
  exact Pattern.match?_captureRun word (List.length_pos_iff.mpr nonempty) stops
    goesOn

/-- A date goes up to the first comma, and takes the digits behind it. -/
theorem match?_date {date fraction : List Char}
    (plain : ',' ∉ date) (digits : ∀ c ∈ fraction, isDigit c = true)
    (stops : ∀ c ∈ rest.head?, isDigit c = false)
    (goesOn : (Pattern.sequence others).match? total rest
      ((ordinal, date) :: captures) next = some found) :
    (Pattern.sequence
        ((Piece.first .timestamp ordinal).patterns ++ others)).match?
      total (date ++ ',' :: (fraction ++ rest)) captures next = some found := by
  have run : ∀ c ∈ date, (CharClass.outside (.single ',')).holds c = true := by
    intro c inside
    have other : c ≠ ',' := fun same => plain (same ▸ inside)
    simp [CharClass.holds, other]
  simp only [Piece.patterns, Field.body, Field.tail, List.cons_append,
    List.nil_append]
  rw [Pattern.match?_sequence_cons]
  apply Pattern.match?_captureRun run (Nat.zero_le _) (by simp [CharClass.holds])
  rw [Pattern.match?_sequence_cons, Pattern.match?_char,
    Pattern.match?_sequence_cons]
  exact Pattern.match?_greedyRun digits (Nat.zero_le _) stops goesOn

/-- A thread name goes up to the first closing bracket, if what follows goes on
there. -/
theorem match?_thread {thread : List Char} (unclosed : ']' ∉ thread)
    (goesOn : (Pattern.sequence others).match? total rest captures next =
      some found) :
    (Pattern.sequence (Piece.thread.patterns ++ others)).match? total
      ('[' :: (thread ++ ']' :: rest)) captures next = some found := by
  simp only [Piece.patterns, List.cons_append, List.nil_append]
  rw [Pattern.match?_sequence_cons, Pattern.match?_char,
    Pattern.match?_sequence_cons]
  apply Pattern.match?_lazyRun (fun _ _ => rfl)
  · intro before after split nonempty
    cases after with
    | nil => exact absurd rfl nonempty
    | cons c after =>
        have other : c ≠ ']' := by
          rintro rfl
          exact unclosed (by simp [split])
        rw [List.cons_append, Pattern.match?_sequence_cons]
        exact Pattern.match?_char_of_ne total other _ _ _
  · rwa [Pattern.match?_sequence_cons, Pattern.match?_char]

/-- The message takes all the rest. -/
theorem match?_message {text : List Char}
    (goesOn : next [] ((ordinal, text) :: captures) = some found) :
    (Pattern.sequence (Piece.first .message ordinal).patterns).match? total
      text captures next = some found := by
  rw [Piece.patterns, Field.tail, Pattern.match?_sequence_cons,
    ← List.append_nil text]
  apply Pattern.match?_captureRun (fun _ _ => rfl) (Nat.zero_le _) (by simp)
  simpa [Pattern.match?_sequence_nil] using goesOn

end Matching

end ClusterLog.Layout
