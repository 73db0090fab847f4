import Mathlib.Algebra.BigOperators.Group.List.Basic
import Mathlib.Algebra.GroupWithZero.Nat
import Mathlib.Data.List.Nodup
import Mathlib.Data.List.Perm.Basic

/-!
# Lists grouped by a key

The distinct keys of a list's items, each at the place of its first item, divide
the list into groups.  The groups together are the list in another order, so what
is counted or added up group by group is what is counted or added up over the
whole list.
-/

namespace ClusterLog

/-! ## Distinct keys -/

section Keys

variable {Key : Type} [BEq Key] [LawfulBEq Key] {first second : Key}

theorem nodup_eraseDups : ∀ keys : List Key, keys.eraseDups.Nodup
  | [] => by simp
  | key :: keys => by
    rw [List.eraseDups_cons, List.nodup_cons]
    exact ⟨by simp, nodup_eraseDups _⟩
termination_by keys => keys.length
decreasing_by exact Nat.lt_succ_of_le (List.length_filter_le _ _)

theorem eraseDups_perm {keys others : List Key} (same : keys.Perm others) :
    keys.eraseDups.Perm others.eraseDups := by
  rw [List.perm_ext_iff_of_nodup (nodup_eraseDups keys) (nodup_eraseDups others)]
  intro key
  rw [List.mem_eraseDups, List.mem_eraseDups, same.mem_iff]

/-- What is kept of a list has the order of the list. -/
theorem idxOf_lt_of_filter (keep : Key → Bool) {keys : List Key}
    (keepsFirst : keep first = true) (keepsSecond : keep second = true)
    (before : (keys.filter keep).idxOf first < (keys.filter keep).idxOf second) :
    keys.idxOf first < keys.idxOf second := by
  induction keys with
  | nil => exact before
  | cons key keys ih =>
      by_cases kept : keep key = true
      · rw [List.filter_cons_of_pos kept] at before
        simp only [List.idxOf_cons] at before ⊢
        cases isFirst : key == first <;> cases isSecond : key == second <;>
          simp_all
      · rw [List.filter_cons_of_neg kept] at before
        have other {wanted : Key} (keeps : keep wanted = true) :
            (key == wanted) = false := by
          rw [beq_eq_false_iff_ne]
          rintro rfl
          exact kept keeps
        simpa [List.idxOf_cons, other keepsFirst, other keepsSecond] using
          ih before

/-- Distinct keys come in the order of their first places. -/
theorem pairwise_eraseDups : ∀ keys : List Key,
    keys.eraseDups.Pairwise fun first second =>
      keys.idxOf first < keys.idxOf second
  | [] => by simp
  | key :: keys => by
    rw [List.eraseDups_cons, List.pairwise_cons]
    have kept {wanted : Key}
        (member : wanted ∈ (keys.filter fun other => !other == key).eraseDups) :
        (!wanted == key) = true :=
      (List.mem_filter.mp (List.mem_eraseDups.mp member)).2
    have differs {wanted : Key} (keeps : (!wanted == key) = true) :
        (key == wanted) = false := by
      rw [BEq.comm, ← Bool.not_eq_true']
      exact keeps
    constructor
    · intro second member
      simp [List.idxOf_cons, differs (kept member)]
    · refine (pairwise_eraseDups _).imp_of_mem ?_
      intro first second member memberToo before
      have behind := idxOf_lt_of_filter (fun other => !other == key)
        (kept member) (kept memberToo) before
      simpa [List.idxOf_cons, differs (kept member), differs (kept memberToo)]
        using behind
termination_by keys => keys.length
decreasing_by exact Nat.lt_succ_of_le (List.length_filter_le _ _)

/-- Keys that are written alike only if they are the same stay distinct. -/
theorem eraseDups_map {Text : Type} [BEq Text] [LawfulBEq Text]
    {write : Key → Text} (unique : Function.Injective write) :
    ∀ keys : List Key, (keys.map write).eraseDups = keys.eraseDups.map write
  | [] => by simp
  | key :: keys => by
    have others : (keys.map write).filter (fun text => !text == write key) =
        (keys.filter fun other => !other == key).map write := by
      rw [List.filter_map]
      congr 2
      funext other
      simp [unique.eq_iff]
    rw [List.map_cons, List.eraseDups_cons, List.eraseDups_cons, List.map_cons,
      others, eraseDups_map unique]
termination_by keys => keys.length
decreasing_by exact Nat.lt_succ_of_le (List.length_filter_le _ _)

end Keys

/-! ## Groups -/

section Groups

variable {Item Key : Type} [BEq Key] [LawfulBEq Key] {key : Item → Key}

/-- Where no key is listed twice and each item has a listed key, the groups of the
keys are the list in another order. -/
theorem groups_perm {keys : List Key} (once : keys.Nodup) {items : List Item}
    (covered : ∀ item ∈ items, key item ∈ keys) :
    (keys.flatMap fun wanted => items.filter (key · == wanted)).Perm items := by
  induction keys generalizing items with
  | nil =>
      cases items with
      | nil => exact .refl _
      | cons item items => cases covered item List.mem_cons_self
  | cons first keys ih =>
      rcases List.nodup_cons.mp once with ⟨fresh, once⟩
      let others := items.filter fun item => !key item == first
      have coveredOthers : ∀ item ∈ others, key item ∈ keys := by
        intro item member
        rcases List.mem_filter.mp member with ⟨inside, differs⟩
        rcases List.mem_cons.mp (covered item inside) with same | listed
        · simp [same] at differs
        · exact listed
      -- The other groups lose nothing with the first one.
      have groups : ∀ wanted ∈ keys,
          items.filter (key · == wanted) = others.filter (key · == wanted) := by
        intro wanted listed
        rw [List.filter_filter]
        apply List.filter_congr
        intro item _
        by_cases same : key item = wanted
        · have differs : wanted ≠ first := fun isFirst => fresh (isFirst ▸ listed)
          simp [same, differs]
        · simp [same]
      rw [List.flatMap_cons, List.flatMap_congr groups]
      exact ((ih once coveredOthers).append_left _).trans
        (List.filter_append_perm _ items)

variable (key : Item → Key) (items : List Item)

theorem groups_eraseDups_perm :
    ((items.map key).eraseDups.flatMap fun wanted =>
      items.filter (key · == wanted)).Perm items :=
  groups_perm (nodup_eraseDups _) fun _ member =>
    List.mem_eraseDups.mpr (List.mem_map_of_mem member)

/-- Amounts are conserved by grouping. -/
theorem sum_groups {Amount : Type} [AddCommMonoid Amount]
    (value : Item → Amount) :
    ((items.map key).eraseDups.map fun wanted =>
      ((items.filter (key · == wanted)).map value).sum).sum =
        (items.map value).sum := by
  have same := ((groups_eraseDups_perm key items).map value).sum_eq
  rw [List.map_flatMap, List.flatMap_def, List.sum_flatten, List.map_map] at same
  exact same

/-- Counts are conserved by grouping. -/
theorem countP_groups (counts : Item → Bool) :
    ((items.map key).eraseDups.map fun wanted =>
      (items.filter (key · == wanted)).countP counts).sum =
        items.countP counts := by
  have same := (groups_eraseDups_perm key items).countP_eq counts
  rw [List.countP_flatMap] at same
  exact same

end Groups

end ClusterLog
