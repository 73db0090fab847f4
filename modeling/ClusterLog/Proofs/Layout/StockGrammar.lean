import ClusterLog.Proofs.Layout.Pieces

/-!
# Matches of the stock grammar

What the grammar of the stock layout finds in a text that consists of a level,
a thread name in brackets, a date with its milliseconds, and anything else.

The thread name is matched by a lazy run.  It ends at the first closing bracket
with a blank behind it, so no bracket inside the name may have one.
-/

namespace ClusterLog.Layout

open Text

/-- No closing bracket of a thread name has a blank behind it. -/
def IsClosedName (thread : List Char) : Prop :=
  ∀ c, isBlank c = true → ¬ [']', c] <:+: thread

/-- Behind a part of the thread name the pattern does not go on. -/
theorem match?_insideName {α : Type} {total : Nat}
    {patterns : List Pattern} {captures : Captures}
    {next : List Char → Captures → Option α}
    {thread before after rest : List Char}
    (closed : IsClosedName thread)
    (split : thread = before ++ after) (nonempty : after ≠ []) :
    (Pattern.sequence (.char ']' :: .one .blank :: patterns)).match? total
      (after ++ ']' :: rest) captures next = none := by
  cases after with
  | nil => exact absurd rfl nonempty
  | cons c after =>
      rw [List.cons_append, Pattern.match?_sequence_cons]
      by_cases bracket : c = ']'
      · subst c
        rw [Pattern.match?_char, Pattern.match?_sequence_cons]
        cases after with
        | nil => rfl
        | cons d after =>
            have nonblank : isBlank d = false := by
              rw [Bool.eq_false_iff]
              intro blank
              exact closed d blank ⟨before, after, by simp [split]⟩
            simp [Pattern.match?, CharClass.holds, nonblank]
      · exact Pattern.match?_char_of_ne _ bracket _ _ _

/-- The grammar of the stock layout finds the level, the date and all that
follows the milliseconds. -/
theorem matchWhole?_stockGrammar
    {level padding thread date fraction tail : List Char}
    (level_letters : ∀ c ∈ level, isAsciiLetter c = true)
    (level_nonempty : level ≠ [])
    (padding_blank : ∀ c ∈ padding, isBlank c = true)
    (padding_nonempty : padding.head? = some ' ')
    (closed : IsClosedName thread)
    (date_plain : ',' ∉ date)
    (fraction_digits : ∀ c ∈ fraction, isAsciiDigit c = true)
    (tail_stops : ∀ c ∈ tail.head?, isDigit c = false) :
    stockGrammar.pattern.matchWhole?
        (level ++ (padding ++ '[' :: (thread ++ ']' :: ' ' ::
          (date ++ ',' :: (fraction ++ tail))))) =
      some [(3, tail), (2, date), (1, level)] := by
  have beginning : ∀ text, ∀ c ∈ (level ++ text).head?,
      CharClass.blank.holds c = false := by
    intro text c first
    rcases List.exists_cons_of_ne_nil level_nonempty with ⟨d, others, rfl⟩
    have same : d = c := by simpa using first
    rw [← same]
    exact isBlank_of_asciiLetter (level_letters d (by simp))
  have ending : ∀ text, ∀ c ∈ (padding ++ text).head?,
      CharClass.word.holds c = false := by
    intro text c first
    have same : ' ' = c := by
      simpa [List.head?_append, padding_nonempty] using first
    rw [← same]
    rfl
  have levelWord : ∀ c ∈ level, CharClass.word.holds c = true :=
    fun c inside => isWord_of_asciiLetter (level_letters c inside)
  have fractionRun : ∀ c ∈ fraction, CharClass.digit.holds c = true :=
    fun c inside => isDigit_of_asciiDigit (fraction_digits c inside)
  rw [Pattern.matchWhole?]
  simp only [stockGrammar, List.cons_append, List.nil_append, List.append_assoc]
  rw [Pattern.match?_sequence_cons, Pattern.match?, if_pos (by simp),
    Pattern.match?_sequence_cons, ← List.nil_append (level ++ _)]
  apply Pattern.match?_greedyRun (by simp) (by simp) (beginning _)
  rw [Pattern.match?_sequence_cons]
  apply Pattern.match?_captureRun levelWord
    (List.length_pos_iff.mpr level_nonempty) (ending _)
  rw [Pattern.match?_sequence_cons]
  apply Pattern.match?_greedyRun padding_blank (by simp) (by simp; rfl)
  simp only [Piece.patterns, List.cons_append, List.nil_append]
  rw [Pattern.match?_sequence_cons, Pattern.match?_char,
    Pattern.match?_sequence_cons]
  -- The run over the thread is lazy: no end of it inside the name may match.
  apply Pattern.match?_lazyRun (fun _ _ => rfl)
  · intro before after split nonempty
    exact match?_insideName closed split nonempty
  rw [Pattern.match?_sequence_cons, Pattern.match?_char,
    Pattern.match?_sequence_cons, Pattern.match?, if_pos (by rfl)]
  exact match?_date date_plain fractionRun tail_stops (match?_message rfl)

end ClusterLog.Layout
