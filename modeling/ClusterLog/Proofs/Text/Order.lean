import ClusterLog.Text.Order

/-!
# The order of texts

Texts are ordered linearly: any two of them are comparable, and two that come
before each other are equal.  Texts with beginnings of one length are ordered by
these first.
-/

namespace ClusterLog.Text

theorem precedes_cons_iff {c d : Char} {left right : List Char} :
    precedes (c :: left) (d :: right) = true ↔
      c.toNat < d.toNat ∨
        c.toNat = d.toNat ∧ precedes left right = true := by
  rw [precedes]
  split
  · simp_all
  · split
    · simp
      omega
    · have same : c.toNat = d.toNat := by omega
      simp [same]

theorem precedes_trans {first second third : List Char}
    (before : precedes first second = true)
    (behind : precedes second third = true) :
    precedes first third = true := by
  induction first generalizing second third with
  | nil => rfl
  | cons c first ih =>
      cases second with
      | nil => cases before
      | cons d second =>
          cases third with
          | nil => cases behind
          | cons e third =>
              rw [precedes_cons_iff] at before behind ⊢
              rcases before with less | ⟨same, before⟩
              · rcases behind with lessToo | ⟨sameToo, -⟩ <;> omega
              · rcases behind with lessToo | ⟨sameToo, behind⟩
                · omega
                · exact Or.inr ⟨same.trans sameToo, ih before behind⟩

theorem precedes_antisymm {left right : List Char}
    (before : precedes left right = true)
    (behind : precedes right left = true) :
    left = right := by
  induction left generalizing right with
  | nil =>
      cases right with
      | nil => rfl
      | cons d right => cases behind
  | cons c left ih =>
      cases right with
      | nil => cases before
      | cons d right =>
          rw [precedes_cons_iff] at before behind
          rcases before with less | ⟨same, before⟩
          · rcases behind with lessToo | ⟨sameToo, -⟩ <;> omega
          · rcases behind with lessToo | ⟨-, behind⟩
            · omega
            · rw [Char.toNat_inj.mp same, ih before behind]

theorem precedes_total (left right : List Char) :
    (precedes left right || precedes right left) = true := by
  induction left generalizing right with
  | nil => rfl
  | cons c left ih =>
      cases right with
      | nil => simp [precedes]
      | cons d right =>
          rw [Bool.or_eq_true, precedes_cons_iff, precedes_cons_iff]
          have comparable := ih right
          rw [Bool.or_eq_true] at comparable
          rcases Nat.lt_trichotomy c.toNat d.toNat with less | same | more
          · exact Or.inl (Or.inl less)
          · rcases comparable with before | behind
            · exact Or.inl (Or.inr ⟨same, before⟩)
            · exact Or.inr (Or.inr ⟨same.symm, behind⟩)
          · exact Or.inr (Or.inl more)

/-- A text precedes itself. -/
theorem precedes_refl (text : List Char) : precedes text text = true := by
  have comparable := precedes_total text text
  rwa [Bool.or_self] at comparable

/-- Texts are ordered by their beginnings of one length, and where these are the
same by what stands behind. -/
theorem precedes_append {front otherFront : List Char}
    (width : front.length = otherFront.length) (back otherBack : List Char) :
    precedes (front ++ back) (otherFront ++ otherBack) = true ↔
      precedes front otherFront = true ∧
        (front = otherFront → precedes back otherBack = true) := by
  induction front generalizing otherFront with
  | nil =>
      cases otherFront with
      | nil => simp [precedes]
      | cons d otherFront => cases width
  | cons c front ih =>
      cases otherFront with
      | nil => cases width
      | cons d otherFront =>
          have others := ih (Nat.succ.inj width)
          rw [List.cons_append, List.cons_append, precedes_cons_iff,
            precedes_cons_iff, others, List.cons.injEq, ← Char.toNat_inj]
          constructor
          · rintro (less | ⟨same, before, behind⟩)
            · exact ⟨Or.inl less, fun ⟨same, _⟩ => absurd same (Nat.ne_of_lt less)⟩
            · exact ⟨Or.inr ⟨same, before⟩, fun equal => behind equal.2⟩
          · rintro ⟨less | ⟨same, before⟩, behind⟩
            · exact Or.inl less
            · exact Or.inr ⟨same, before, fun equal => behind ⟨same, equal⟩⟩

/-- A character at one place in two texts has no influence on their order. -/
theorem precedes_insert {front otherFront : List Char}
    (width : front.length = otherFront.length) (c : Char)
    (back otherBack : List Char) :
    precedes (front ++ c :: back) (otherFront ++ c :: otherBack) = true ↔
      precedes (front ++ back) (otherFront ++ otherBack) = true := by
  simp [precedes_append width, precedes_cons_iff]

/-- What two texts of one length end with has no influence on their order. -/
theorem precedes_append_right {front otherFront : List Char}
    (width : front.length = otherFront.length) (back : List Char) :
    precedes (front ++ back) (otherFront ++ back) = true ↔
      precedes front otherFront = true := by
  simp [precedes_append width, precedes_refl]

end ClusterLog.Text
