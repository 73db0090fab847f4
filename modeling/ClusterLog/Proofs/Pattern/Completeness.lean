import ClusterLog.Proofs.Pattern.Matching
import ClusterLog.Proofs.Pattern.Reading

/-!
# Ways to read that are found

Where a pattern without repeated groups can read a text in some way that leads
on, the search for a match finds one: it tries every length of a run and every
alternative.  It may find another way than the given one.
-/

namespace ClusterLog

namespace Pattern

/-- Nothing but single characters is repeated in a pattern. -/
def IsLoopFree : Pattern → Prop
  | seq first second => first.IsLoopFree ∧ second.IsLoopFree
  | either first second => first.IsLoopFree ∧ second.IsLoopFree
  | capture _ body => body.IsLoopFree
  | loop .. => False
  | _ => True

theorem isLoopFree_sequence {patterns : List Pattern}
    (all : ∀ pattern ∈ patterns, pattern.IsLoopFree) :
    (sequence patterns).IsLoopFree := by
  induction patterns with
  | nil => trivial
  | cons pattern patterns ih =>
      exact ⟨all pattern List.mem_cons_self,
        ih fun other member => all other (List.mem_cons_of_mem _ member)⟩

/-! ## Runs -/

section Runs

variable {member : Char → Bool}

theorem bounded_of_length_cons_le {most : Option Nat} {c : Char}
    {run : List Char} (bounded : ∀ bound ∈ most, (c :: run).length ≤ bound) :
    most ≠ some 0 ∧ ∀ bound ∈ most.map (· - 1), run.length ≤ bound := by
  rw [List.length_cons] at bounded
  constructor
  · rintro rfl
    have atMost := bounded 0 rfl
    omega
  · intro bound shortened
    rcases Option.map_eq_some_iff.mp shortened with ⟨least, known, rfl⟩
    have atMost := bounded least known
    omega

theorem mem_runsDown_of_mem {most : Option Nat} {text left : List Char}
    {shorter : List (List Char)} (before : left ∈ shorter) :
    left ∈ runsDown member most text shorter := by
  fun_induction runsDown member most text shorter with
  | case1 => exact List.mem_cons_of_mem _ before
  | case2 => exact List.mem_cons_of_mem _ before
  | case3 most c rest shorter positive holds ih =>
      exact ih (List.mem_cons_of_mem _ before)
  | case4 => exact List.mem_cons_of_mem _ before

/-- The text behind each run of the class is tried. -/
theorem mem_runsDown_append {most : Option Nat} {run left : List Char}
    (all : ∀ c ∈ run, member c = true)
    (bounded : ∀ bound ∈ most, run.length ≤ bound)
    (shorter : List (List Char)) :
    left ∈ runsDown member most (run ++ left) shorter := by
  induction run generalizing most shorter with
  | nil =>
      rw [List.nil_append]
      unfold runsDown
      split
      · exact List.mem_cons_self
      · exact List.mem_cons_self
      · split
        · exact mem_runsDown_of_mem List.mem_cons_self
        · exact List.mem_cons_self
  | cons c run ih =>
      rcases List.forall_mem_cons.mp all with ⟨holds, others⟩
      rcases bounded_of_length_cons_le bounded with ⟨positive, fewer⟩
      rw [List.cons_append]
      unfold runsDown
      split
      · exact absurd rfl positive
      · rename_i same
        cases same
      · rename_i same
        cases same
        rw [if_pos holds]
        exact ih others fewer _

theorem isSome_runsUp_append {α : Type} {next : List Char → Option α}
    {most : Option Nat} {run left : List Char}
    (all : ∀ c ∈ run, member c = true)
    (bounded : ∀ bound ∈ most, run.length ≤ bound)
    (goesOn : (next left).isSome = true) :
    (runsUp member next most (run ++ left)).isSome = true := by
  induction run generalizing most with
  | nil =>
      rw [List.nil_append]
      unfold runsUp
      split
      · exact goesOn
      · exact goesOn
      · rcases Option.isSome_iff_exists.mp goesOn with ⟨found, here⟩
        rw [here]
        rfl
  | cons c run ih =>
      rcases List.forall_mem_cons.mp all with ⟨holds, others⟩
      rcases bounded_of_length_cons_le bounded with ⟨positive, fewer⟩
      rw [List.cons_append]
      unfold runsUp
      split
      · exact absurd rfl positive
      · rename_i same
        cases same
      · rename_i same
        cases same
        split
        · rfl
        · rw [if_pos holds]
          exact ih others fewer

end Runs

/-! ## Matches -/

/-- If a pattern can read a text and what follows goes on behind it, there is a
match. -/
theorem Reads.isSome_match? {α : Type} {total : Nat} {pattern : Pattern}
    {text rest : List Char} {captures kept : Captures}
    {next : List Char → Captures → Option α}
    (reads : pattern.Reads total text captures rest kept)
    (plain : pattern.IsLoopFree) (goesOn : (next rest kept).isSome = true) :
    (pattern.match? total text captures next).isSome = true := by
  induction reads generalizing next with
  | empty => exact goesOn
  | one holds =>
      rw [match?, if_pos holds]
      exact goesOn
  | seq _ _ first second => exact first plain.1 (second plain.2 goesOn)
  | left _ ih =>
      rcases Option.isSome_iff_exists.mp (ih plain.1 goesOn) with ⟨found, here⟩
      rw [match?, here]
      rfl
  | right _ ih =>
      rw [match?]
      split
      · rfl
      · exact ih plain.2 goesOn
  | @run greedy least most member run rest captures holds enough bounded =>
      have others : ∀ c ∈ run.drop least, member.holds c = true :=
        fun c inside => holds c (List.mem_of_mem_drop inside)
      have fewer : ∀ bound ∈ most.map (· - least),
          (run.drop least).length ≤ bound := by
        intro bound shortened
        rcases Option.map_eq_some_iff.mp shortened with ⟨limit, known, rfl⟩
        rw [List.length_drop]
        exact bounded limit known
      rw [match?, dropExactly?_append holds enough, Option.bind_some]
      split
      · rw [List.findSome?_isSome_iff]
        exact ⟨rest, mem_runsDown_append others fewer [], goesOn⟩
      · exact isSome_runsUp_append others fewer goesOn
  | stop | again => exact plain.elim
  | @capture ordinal body read rest captures kept _ ih =>
      refine ih plain ?_
      rw [List.length_append, Nat.add_sub_cancel, List.take_left]
      exact goesOn
  | textStart first =>
      rw [match?, if_pos (beq_iff_eq.mpr first)]
      exact goesOn
  | textEnd => exact goesOn
  | lastLineEnd last =>
      rw [match?, if_pos (by simpa using last)]
      exact goesOn

/-- A pattern without repeated groups matches a text if it can read the whole of
it. -/
theorem isSome_matchWhole?_iff {pattern : Pattern} {text : List Char}
    (plain : pattern.IsLoopFree) :
    (pattern.matchWhole? text).isSome = true ↔
      ∃ kept, pattern.Reads text.length text [] [] kept := by
  constructor
  · intro matched
    rcases Option.isSome_iff_exists.mp matched with ⟨captures, found⟩
    rcases match?_eq_some found with ⟨rest, kept, reads, ends⟩
    split at ends
    · rename_i nothing
      exact ⟨kept, List.isEmpty_iff.mp nothing ▸ reads⟩
    · cases ends
  · rintro ⟨kept, reads⟩
    exact reads.isSome_match? plain rfl

end Pattern

end ClusterLog
