import ClusterLog.Appender.Basic
import ClusterLog.Proofs.StableOrder
import Mathlib.Data.List.Induction
import Mathlib.Data.Nat.Basic

/-!
# The chosen appender

Among the appenders that write rolling files and show warnings, the first one
with the highest threshold is chosen.  An appender in front of it is less
restrictive, and one behind it is not more restrictive.
-/

namespace ClusterLog.Appender

theorem mostRestrictive_concat (best next : Appender) (others : List Appender) :
    mostRestrictive best (others ++ [next]) =
      if (mostRestrictive best others).threshold < next.threshold then next
      else mostRestrictive best others :=
  List.foldl_append

/-- The most restrictive appender is the first one with its threshold. -/
theorem exists_mostRestrictive (best : Appender) (others : List Appender) :
    ∃ before after,
      best :: others = before ++ mostRestrictive best others :: after ∧
      (∀ other ∈ before,
        other.threshold < (mostRestrictive best others).threshold) ∧
      ∀ other ∈ after,
        other.threshold ≤ (mostRestrictive best others).threshold := by
  -- The appenders are compared from the left, so the last one is taken off.
  induction others using List.reverseRecOn with
  | nil => exact ⟨[], [], rfl, nofun, nofun⟩
  | append_singleton others next ih =>
      rw [mostRestrictive_concat, ← List.cons_append]
      generalize mostRestrictive best others = chosen at ih ⊢
      rcases ih with ⟨before, after, split, stricter, strict⟩
      rw [split]
      split
      · rename_i less
        refine ⟨before ++ chosen :: after, [], rfl, ?_, nofun⟩
        rw [List.forall_mem_append, List.forall_mem_cons]
        refine ⟨fun other member => ?_, less, fun other member => ?_⟩
        · exact Nat.lt_trans (stricter other member) less
        · exact Nat.lt_of_le_of_lt (strict other member) less
      · rename_i notLess
        refine ⟨before, after ++ [next], by simp, stricter, ?_⟩
        rw [List.forall_mem_append, List.forall_mem_singleton]
        exact ⟨strict, Nat.le_of_not_lt notLess⟩

/-- The chosen appender comes first where the useful ones are sorted by their
thresholds, the highest ones in front. -/
theorem select_eq_head_mergeSort (appenders : List Appender) :
    select appenders =
      ((((appenders.filter qualifies).mergeSort fun first second =>
        second.threshold ≤ first.threshold).head?).getD fallback) := by
  unfold select
  split
  · rename_i none
    rw [none, List.mergeSort_nil]
    rfl
  · rename_i first others found
    rcases exists_mostRestrictive first others with
      ⟨before, after, split, stricter, strict⟩
    have least : ((before ++ mostRestrictive first others :: after).mergeSort
        fun first second => second.threshold ≤ first.threshold).head? =
          some (mostRestrictive first others) :=
      head?_mergeSort_append_cons
        (greaterKey_trans fun appender : Appender => appender.threshold.rank)
        (greaterKey_total fun appender : Appender => appender.threshold.rank)
        (fun other member =>
          decide_eq_false (Nat.not_le_of_lt (stricter other member)))
        (fun other member => decide_eq_true (strict other member))
    rw [found, split, least]
    rfl

end ClusterLog.Appender
