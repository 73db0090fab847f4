import Mathlib.Data.List.Nodup
import Mathlib.Data.List.Pairwise
import Mathlib.Order.Lattice

/-!
# Stable order

Sorting a list without repetitions keeps equal members in the order of the list,
so with that order as its second criterion the order of the result is strict.  A
list that is sorted begins with the first one of its least members.
-/

namespace ClusterLog

variable {α : Type} {items : List α} {a b : α}

/-- Two distinct members of a list stand one behind the other. -/
theorem sublist_pair_or (first : a ∈ items) (second : b ∈ items)
    (distinct : a ≠ b) :
    [a, b].Sublist items ∨ [b, a].Sublist items := by
  have pairs : items.Pairwise fun x y =>
      [x, y].Sublist items ∨ [y, x].Sublist items :=
    List.pairwise_iff_forall_sublist.mpr Or.inl
  have : Std.Symm fun x y => [x, y].Sublist items ∨ [y, x].Sublist items :=
    ⟨fun _ _ => Or.symm⟩
  exact pairs.forall first second distinct

theorem not_sublist_swap (nodup : items.Nodup)
    (inOrder : [a, b].Sublist items) :
    ¬ [b, a].Sublist items := by
  induction items with
  | nil => cases inOrder
  | cons item items ih =>
      rcases List.nodup_cons.mp nodup with ⟨fresh, nodupItems⟩
      intro swapped
      cases inOrder with
      | cons _ inOrder =>
          cases swapped with
          | cons _ swapped => exact ih nodupItems inOrder swapped
          | cons_cons _ swapped =>
              exact fresh (inOrder.subset (by simp))
      | cons_cons _ inOrder =>
          cases swapped with
          | cons _ swapped => exact fresh (swapped.subset (by simp))
          | cons_cons _ swapped =>
              exact fresh (inOrder.subset (by simp))

section Keys

variable {Key : Type} [LinearOrder Key] (key : α → Key)

/-! Sorting by a key, the greatest key first. -/

theorem greaterKey_trans (a b c : α) (first : decide (key b ≤ key a) = true)
    (second : decide (key c ≤ key b) = true) :
    decide (key c ≤ key a) = true :=
  decide_eq_true (le_trans (of_decide_eq_true second) (of_decide_eq_true first))

theorem greaterKey_total (a b : α) :
    (decide (key b ≤ key a) || decide (key a ≤ key b)) = true := by
  rw [Bool.or_eq_true, decide_eq_true_eq, decide_eq_true_eq]
  exact le_total (key b) (key a)

end Keys

/-- Sorting a list without repetitions keeps equal members in their order. -/
theorem pairwise_mergeSort_of_tie {le : α → α → Bool} {ordered : α → α → Prop}
    (trans : ∀ a b c, le a b = true → le b c = true → le a c = true)
    (total : ∀ a b, (le a b || le b a) = true)
    (nodup : items.Nodup) (inOrder : items.Pairwise ordered) :
    (items.mergeSort le).Pairwise fun a b =>
      le a b = true ∧ (le b a = true → ordered a b) := by
  have perm := List.mergeSort_perm items le
  have nodupSorted : (items.mergeSort le).Nodup := perm.nodup_iff.mpr nodup
  refine (List.pairwise_mergeSort trans total items).and ?_
  rw [List.pairwise_iff_forall_sublist]
  intro a b sorted tie
  have distinct : a ≠ b := by
    have pair := nodupSorted.sublist sorted
    simpa using pair
  have first : a ∈ items := perm.mem_iff.mp (sorted.subset (by simp))
  have second : b ∈ items := perm.mem_iff.mp (sorted.subset (by simp))
  rcases sublist_pair_or first second distinct with kept | swapped
  · exact List.pairwise_iff_forall_sublist.mp inOrder kept
  · have stable := List.pair_sublist_mergeSort trans total tie swapped
    exact absurd stable (not_sublist_swap nodupSorted sorted)

/-- A sorted list begins with a member that is less than all in front of it and
not greater than any behind it. -/
theorem head?_mergeSort_append_cons {le : α → α → Bool} {before after : List α}
    {least : α}
    (trans : ∀ a b c, le a b = true → le b c = true → le a c = true)
    (total : ∀ a b, (le a b || le b a) = true)
    (greater : ∀ other ∈ before, le other least = false)
    (noLess : ∀ other ∈ after, le least other = true) :
    ((before ++ least :: after).mergeSort le).head? = some least := by
  induction before with
  | nil =>
      rcases List.mergeSort_cons trans total least after with
        ⟨front, back, sorted, others, inFront⟩
      cases front with
      | nil => rw [List.nil_append, sorted, List.nil_append, List.head?_cons]
      | cons other front =>
          have member : other ∈ after := by
            rw [← List.mem_mergeSort, others]
            exact List.mem_cons_self
          simp [noLess other member] at inFront
  | cons first before ih =>
      rcases List.forall_mem_cons.mp greater with ⟨greaterFirst, greater⟩
      have head := ih greater
      rcases List.mergeSort_cons trans total first (before ++ least :: after) with
        ⟨front, back, sorted, others, -⟩
      have ordered := List.pairwise_mergeSort trans total
        (first :: (before ++ least :: after))
      rw [List.cons_append, sorted]
      rw [sorted] at ordered
      rw [others] at head
      cases front with
      | nil =>
          -- The first member would be in front of the least one.
          have member : least ∈ back := List.mem_of_mem_head? head
          have less := (List.pairwise_cons.mp ordered).1 least member
          rw [greaterFirst] at less
          cases less
      | cons other front => exact head

end ClusterLog
