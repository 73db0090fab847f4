import ClusterLog.Diagnostics.Tally
import ClusterLog.Proofs.Grouping
import Mathlib.Data.List.Induction

/-!
# Tallies of groups

After any number of items a tally has the distinct keys of these items, each at
the place of its first item, and the value of a key is what counting the items of
that key alone comes to.  One more item changes nothing but the value of its own
key.
-/

namespace ClusterLog.Diagnostics.Tally

variable {Item Key Value : Type} [BEq Key]

/-! ## One change -/

section Change

variable [LawfulBEq Key] {keys : List Key} {key : Key}
variable (valueOf : Key → Value) (start : Value) (next : Value → Value)

/-- Where a key has a value, this one changes in its place. -/
theorem change_of_mem (once : keys.Nodup) (known : key ∈ keys)
    {changed : Key → Value} (here : changed key = next (valueOf key))
    (elsewhere : ∀ other, other ≠ key → changed other = valueOf other) :
    change key start next (keys.map fun known => (known, valueOf known)) =
      keys.map fun known => (known, changed known) := by
  induction keys with
  | nil => cases known
  | cons first keys ih =>
      rcases List.nodup_cons.mp once with ⟨fresh, once⟩
      rw [List.map_cons, List.map_cons, change]
      by_cases same : first = key
      · subst same
        have others : ∀ other ∈ keys, (other, valueOf other) =
            (other, changed other) := by
          intro other member
          rw [elsewhere other (ne_of_mem_of_not_mem member fresh)]
        rw [if_pos (beq_self_eq_true first), here, List.map_congr_left others]
      · have member : key ∈ keys :=
          (List.mem_cons.mp known).resolve_left (Ne.symm same)
        rw [if_neg (by simpa using same), ih once member, elsewhere first same]

/-- A key without a value comes last. -/
theorem change_of_notMem (fresh : key ∉ keys) :
    change key start next (keys.map fun known => (known, valueOf known)) =
      (keys.map fun known => (known, valueOf known)) ++ [(key, next start)] := by
  induction keys with
  | nil => rfl
  | cons first keys ih =>
      rcases not_or.mp (mt List.mem_cons.mpr fresh) with ⟨differs, fresh⟩
      rw [List.map_cons, change, if_neg (by simpa using Ne.symm differs), ih fresh,
        List.cons_append]

end Change

/-! ## All items -/

section Items

variable (key : Item → Key) (start : Value) (count : Value → Item → Value)

/-- What counting the items of a key alone comes to. -/
def valueOf (items : List Item) (wanted : Key) : Value :=
  (items.filter (key · == wanted)).foldl count start

/-- The keys of items with their values. -/
def groups (items : List Item) : Tally Key Value :=
  (items.map key).eraseDups.map fun wanted =>
    (wanted, valueOf key start count items wanted)

theorem valueOf_concat (items : List Item) (item : Item) (wanted : Key) :
    valueOf key start count (items ++ [item]) wanted =
      if key item == wanted then
        count (valueOf key start count items wanted) item
      else valueOf key start count items wanted := by
  rw [valueOf, List.filter_append, List.foldl_append, List.filter_singleton]
  cases key item == wanted with
  | true => rfl
  | false => rfl

variable [LawfulBEq Key]

theorem valueOf_of_notMem {items : List Item} {wanted : Key}
    (fresh : wanted ∉ items.map key) :
    valueOf key start count items wanted = start := by
  have none : items.filter (key · == wanted) = [] := by
    rw [List.filter_eq_nil_iff]
    intro item member same
    exact fresh (List.mem_map.mpr ⟨item, member, beq_iff_eq.mp same⟩)
  rw [valueOf, none, List.foldl_nil]

theorem change_groups (items : List Item) (item : Item) :
    change (key item) start (count · item) (groups key start count items) =
      groups key start count (items ++ [item]) := by
  have here := valueOf_concat key start count items item (key item)
  rw [if_pos (beq_self_eq_true _)] at here
  have elsewhere (other : Key) (differs : other ≠ key item) :
      valueOf key start count (items ++ [item]) other =
        valueOf key start count items other := by
    rw [valueOf_concat, if_neg (by simpa using Ne.symm differs)]
  rw [groups, groups, List.map_append, List.map_singleton,
    List.eraseDups_append]
  by_cases known : key item ∈ items.map key
  · have nothing : [key item].removeAll (items.map key) = [] := by
      simpa [List.removeAll] using known
    rw [nothing, List.eraseDups_nil, List.append_nil]
    exact change_of_mem _ start (count · item) (nodup_eraseDups _)
      (List.mem_eraseDups.mpr known) here elsewhere
  · have last : [key item].removeAll (items.map key) = [key item] := by
      simpa [List.removeAll] using known
    have others : ∀ other ∈ (items.map key).eraseDups,
        (other, valueOf key start count items other) =
          (other, valueOf key start count (items ++ [item]) other) := by
      intro other member
      rw [elsewhere other
        (ne_of_mem_of_not_mem (List.mem_eraseDups.mp member) known)]
    rw [valueOf_of_notMem key start count known] at here
    rw [last, change_of_notMem _ start (count · item)
        (mt List.mem_eraseDups.mp known),
      List.map_append, List.map_congr_left others, ← here]
    rfl

/-- A tally of items has the groups of the items. -/
theorem ofItems_eq_groups (items : List Item) :
    ofItems key start count items = groups key start count items := by
  -- Items are counted from the left, so the last one is taken off.
  induction items using List.reverseRecOn with
  | nil => rfl
  | append_singleton items item ih =>
      rw [← change_groups, ← ih, ofItems, ofItems, List.foldl_append]
      rfl

end Items

end ClusterLog.Diagnostics.Tally
