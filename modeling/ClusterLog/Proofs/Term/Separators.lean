import ClusterLog.Proofs.Text.Class
import ClusterLog.Term.Basic

/-!
# Separators of terms

Blanks separate terms, so a text has the terms of what stands on either side of
a blank.
-/

namespace ClusterLog.Term

open Text

theorem inRanges_of_blankRanges {code : Nat}
    (blank : inRanges blankRanges code = true) :
    inRanges separatorRanges code = true ∧
      inRanges combiningRanges code = false := by
  have covered : ∀ range ∈ blankRanges,
      (∃ other ∈ separatorRanges, other.1 ≤ range.1 ∧ range.2 ≤ other.2) ∧
        ∀ other ∈ combiningRanges,
          range.2 < other.1 ∨ other.2 < range.1 := by
    decide +kernel
  simp only [inRanges, List.any_eq_true, List.any_eq_false,
    Bool.and_eq_true, decide_eq_true_eq] at blank ⊢
  rcases blank with ⟨range, known, lower, upper⟩
  rcases covered range known with ⟨⟨other, wide, before, behind⟩, apart⟩
  constructor
  · exact ⟨other, wide, by omega, by omega⟩
  · intro mark member
    have outside := apart mark member
    omega

theorem isTermChar_of_isBlank {c : Char} (blank : isBlank c = true) :
    isTermChar c = false ∧ isCombining c = false := by
  by_cases ascii : c.toNat < 128
  · constructor
    · cases letter : isAsciiLetter c with
      | true => simp [isBlank_of_asciiLetter letter] at blank
      | false =>
          cases digit : isAsciiDigit c with
          | true => simp [isBlank_of_asciiDigit digit] at blank
          | false => simp [isTermChar, ascii, letter, digit]
    · simp only [isCombining, Bool.and_eq_false_iff, decide_eq_false_iff_not]
      exact Or.inl (by omega)
  · simp only [isBlank, ascii, if_false] at blank
    rcases inRanges_of_blankRanges blank with ⟨separates, simple⟩
    simp [isTermChar, isCombining, ascii, separates, simple]

/-- Texts have the same terms behind a character if they have them wherever the
character leaves a term begun. -/
theorem termsFrom_cons_congr {c : Char} {text other : List Char}
    (same : ∀ begun : Option (List Char),
      (isTermChar c = false → isCombining c = false → begun = none) →
      termsFrom begun text = termsFrom begun other)
    (begun : Option (List Char)) :
    termsFrom begun (c :: text) = termsFrom begun (c :: other) := by
  have atNone := same none fun _ _ => rfl
  cases term : isTermChar c with
  | true =>
      have inside := fun begun => same begun fun noTerm => by simp [term] at noTerm
      cases begun <;> simp [termsFrom, term, inside]
  | false =>
      cases mark : isCombining c with
      | true =>
          have inside := fun begun => same begun fun _ noMark => by
            simp [mark] at noMark
          cases begun <;> simp [termsFrom, term, mark, inside]
      | false => cases begun <;> simp [termsFrom, term, mark, atNone]

/-- A text has the terms on either side of a separator. -/
theorem termsFrom_separated {c : Char} (noTerm : isTermChar c = false)
    (noMark : isCombining c = false) (front rest : List Char)
    (begun : Option (List Char)) :
    termsFrom begun (front ++ c :: rest) =
      termsFrom begun front ++ terms rest := by
  induction front generalizing begun with
  | nil => cases begun <;> simp [termsFrom, terms, noTerm, noMark]
  | cons d front ih =>
      cases begun with
      | none =>
          cases term : isTermChar d <;> simp [termsFrom, term, ih]
      | some begun =>
          cases inside : isTermChar d || isCombining d <;>
            simp [termsFrom, inside, ih]

theorem terms_behind_blank {c : Char} (blank : isBlank c = true)
    (front rest : List Char) :
    terms (front ++ c :: rest) = terms front ++ terms rest :=
  termsFrom_separated (isTermChar_of_isBlank blank).1
    (isTermChar_of_isBlank blank).2 front rest none

end ClusterLog.Term
