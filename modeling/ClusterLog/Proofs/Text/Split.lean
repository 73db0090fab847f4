import ClusterLog.Text.Find

/-!
# Laws of cutting text

A text that is cut at every separator falls into parts without separators, and
the separators between the parts make the text again.  Its last part is all that
stands behind its last separator.
-/

namespace ClusterLog.Text

variable {separator : Char} {text part : List Char}

theorem splitAt_eq_splitOn (separator : Char) (text : List Char) :
    splitAt separator text = text.splitOn separator := by
  induction text with
  | nil => rfl
  | cons c text ih =>
      rw [splitAt, List.splitOn, List.splitOnP_cons_eq_if_modifyHead, ih]
      split
      · rfl
      · rw [List.splitOn]
        cases cut : List.splitOnP (· == separator) text with
        | nil => exact absurd cut (List.splitOnP_ne_nil _ _)
        | cons first parts => rfl

/-- A part has no separator, and its characters stand in the text. -/
theorem of_mem_splitAt (member : part ∈ splitAt separator text) :
    separator ∉ part ∧ ∀ c ∈ part, c ∈ text := by
  induction text generalizing part with
  | nil =>
      obtain rfl := List.mem_singleton.mp member
      exact ⟨nofun, nofun⟩
  | cons c text ih =>
      have below {other : List Char} (later : other ∈ splitAt separator text) :
          separator ∉ other ∧ ∀ d ∈ other, d ∈ c :: text :=
        ⟨(ih later).1, fun d inside =>
          List.mem_cons_of_mem _ ((ih later).2 d inside)⟩
      rw [splitAt] at member
      split at member
      · rcases List.mem_cons.mp member with rfl | later
        · exact ⟨nofun, nofun⟩
        · exact below later
      · rename_i other
        have different : separator ≠ c := fun same => other (by simp [same])
        split at member
        · obtain rfl := List.mem_singleton.mp member
          simp [different]
        · rename_i first parts cut
          rcases List.mem_cons.mp member with rfl | later
          · have head := below (cut ▸ List.mem_cons_self)
            simp only [List.mem_cons, different, false_or]
            refine ⟨head.1, fun d inside => ?_⟩
            rcases inside with rfl | inside
            · exact Or.inl rfl
            · exact List.mem_cons.mp (head.2 d inside)
          · exact below (cut ▸ List.mem_cons_of_mem _ later)

/-- Nothing stands in the joined text but the parts and the separators. -/
theorem of_mem_intercalate {c : Char} {parts : List (List Char)}
    (inside : c ∈ [separator].intercalate parts) :
    c = separator ∨ ∃ part ∈ parts, c ∈ part := by
  induction parts with
  | nil => cases inside
  | cons first parts ih =>
      cases parts with
      | nil =>
          rw [List.intercalate_singleton] at inside
          exact Or.inr ⟨first, List.mem_cons_self, inside⟩
      | cons second parts =>
          rw [List.intercalate_cons_cons, List.append_assoc, List.mem_append,
            List.mem_append, List.mem_singleton] at inside
          rcases inside with here | between | behind
          · exact Or.inr ⟨first, List.mem_cons_self, here⟩
          · exact Or.inl between
          · exact (ih behind).imp_right fun ⟨part, member, here⟩ =>
              ⟨part, List.mem_cons_of_mem _ member, here⟩

end ClusterLog.Text
