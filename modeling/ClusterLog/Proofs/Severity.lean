import ClusterLog.Severity
import ClusterLog.Proofs.Text.Class
import ClusterLog.Proofs.Text.Find

/-!
# Laws of severity names

Where a text has a severity name, and that it has none.
-/

namespace ClusterLog.Severity

open Text

theorem mem_all (severity : Severity) : severity ∈ all := by
  cases severity <;> decide

theorem name_isAsciiLetter (severity : Severity) :
    ∀ c ∈ severity.name.toList, isAsciiLetter c = true := by
  cases severity <;> decide

theorem name_isWord (severity : Severity) :
    ∀ c ∈ severity.name.toList, isWord c = true :=
  fun c inside => isWord_of_asciiLetter (name_isAsciiLetter severity c inside)

theorem name_ne_nil (severity : Severity) : severity.name.toList ≠ [] := by
  cases severity <;> decide

theorem name_ne_empty (severity : Severity) : severity.name ≠ "" := by
  simpa using name_ne_nil severity

@[simp]
theorem trim_name (severity : Severity) :
    trim severity.name.toList = severity.name.toList := by
  cases severity <;> rfl

theorem keywordAt?_name (severity : Severity) (rest : List Char) :
    keywordAt? (severity.name.toList ++ rest) = some (severity, rest) := by
  cases severity <;> rfl

theorem keywordAt?_eq_none_iff {text : List Char} :
    keywordAt? text = none ↔
      ∀ severity : Severity, ¬ severity.name.toList <+: text := by
  simp only [keywordAt?, List.findSome?_eq_none_iff, Option.map_eq_none_iff,
    dropLiteral?_eq_none_iff]
  exact ⟨fun foreign severity => foreign severity (mem_all severity),
    fun foreign severity _ => foreign severity⟩

theorem firstKeyword?_name (severity : Severity) (rest : List Char) :
    firstKeyword? (severity.name.toList ++ rest) =
      some ([], severity, rest) := by
  cases split : severity.name.toList ++ rest with
  | nil => cases severity <;> simp [name] at split
  | cons c text =>
      have first := keywordAt?_name severity rest
      rw [split] at first
      simp [firstKeyword?, first]

/-- No name is found exactly in the texts that have none. -/
theorem firstKeyword?_eq_none_iff {text : List Char} :
    firstKeyword? text = none ↔
      ∀ severity : Severity, ¬ severity.name.toList <:+: text := by
  induction text with
  | nil =>
      constructor
      · intro _ severity
        cases severity <;> simp [name]
      · intro _
        rfl
  | cons c text ih =>
      constructor
      · intro nowhere severity inside
        cases here : keywordAt? (c :: text) with
        | some found => simp [firstKeyword?, here] at nowhere
        | none =>
            have later : firstKeyword? text = none := by
              simpa [firstKeyword?, here] using nowhere
            rcases List.infix_cons_iff.mp inside with first | other
            · exact keywordAt?_eq_none_iff.mp here severity first
            · exact ih.mp later severity other
      · intro foreign
        have here : keywordAt? (c :: text) = none :=
          keywordAt?_eq_none_iff.mpr fun severity first =>
            foreign severity first.isInfix
        have later : firstKeyword? text = none :=
          ih.mpr fun severity inside =>
            foreign severity (List.infix_cons inside)
        simp [firstKeyword?, here, later]

theorem keywordAt?_eq_some {text rest : List Char} {severity : Severity}
    (found : keywordAt? text = some (severity, rest)) :
    text = severity.name.toList ++ rest := by
  rcases List.exists_of_findSome?_eq_some found with ⟨other, -, here⟩
  rcases Option.map_eq_some_iff.mp here with ⟨behind, drops, same⟩
  cases same
  exact dropLiteral?_eq_some_iff.mp drops

/-- The last name stands between the texts around it. -/
theorem lastKeyword?_eq_some {text before rest : List Char}
    {severity : Severity}
    (found : lastKeyword? text = some (before, severity, rest)) :
    text = before ++ severity.name.toList ++ rest := by
  induction text generalizing before with
  | nil => cases found
  | cons c text ih =>
      rw [lastKeyword?] at found
      split at found
      · rename_i front _ _ later
        cases found
        rw [ih later]
        rfl
      · rcases Option.map_eq_some_iff.mp found with ⟨⟨_, _⟩, here, same⟩
        cases same
        exact keywordAt?_eq_some here

/-- A last name is found exactly in the texts that have one. -/
theorem lastKeyword?_eq_none_iff {text : List Char} :
    lastKeyword? text = none ↔
      ∀ severity : Severity, ¬ severity.name.toList <:+: text := by
  rw [← firstKeyword?_eq_none_iff]
  induction text with
  | nil => rfl
  | cons c text ih =>
      rw [lastKeyword?, firstKeyword?]
      cases here : keywordAt? (c :: text) with
      | some found => cases lastKeyword? text <;> simp
      | none =>
          cases later : lastKeyword? text with
          | some found =>
              have other : firstKeyword? text ≠ none := by
                rw [Ne, ← ih, later]
                exact Option.some_ne_none found
              simpa using other
          | none => simp [ih.mp later]

/-! ## The leftmost name -/

/-- A severity name stands in a text, and none starts in front of it. -/
structure IsLeftmost (text before : List Char) (severity : Severity)
    (after : List Char) : Prop where
  cut : text = before ++ severity.name.toList ++ after
  first : ∀ {front rest : List Char} {other : Severity},
    text = front ++ other.name.toList ++ rest → before.length ≤ front.length

variable {text before after front rest : List Char} {severity other : Severity}

/-- Where two names start at one place they are the same. -/
theorem cut_unique
    (cut : text = before ++ severity.name.toList ++ after)
    (cutToo : text = front ++ other.name.toList ++ rest)
    (same : before.length = front.length) :
    before = front ∧ severity = other ∧ after = rest := by
  rw [cut, List.append_assoc, List.append_assoc] at cutToo
  rcases List.append_inj cutToo same with ⟨rfl, behind⟩
  have names := keywordAt?_name severity after
  rw [behind, keywordAt?_name other rest] at names
  cases names
  exact ⟨rfl, rfl, rfl⟩

/-- No name starts behind the last one. -/
theorem length_le_of_lastKeyword?
    (found : lastKeyword? text = some (before, severity, after))
    (cut : text = front ++ other.name.toList ++ rest) :
    front.length ≤ before.length := by
  induction text generalizing before front with
  | nil => cases found
  | cons c text ih =>
      cases front with
      | nil => exact Nat.zero_le _
      | cons d front =>
          have later : text = front ++ other.name.toList ++ rest :=
            (List.cons.inj cut).2
          rw [lastKeyword?] at found
          split at found
          · rename_i further
            cases found
            exact Nat.succ_le_succ (ih further later)
          · rename_i nowhere
            have inside : other.name.toList <:+: text :=
              ⟨front, rest, later.symm⟩
            exact absurd inside (lastKeyword?_eq_none_iff.mp nowhere other)

theorem IsLeftmost.unique
    (leftmost : IsLeftmost text before severity after)
    (leftmostToo : IsLeftmost text front other rest) :
    before = front ∧ severity = other ∧ after = rest :=
  cut_unique leftmost.cut leftmostToo.cut
    (Nat.le_antisymm (leftmost.first leftmostToo.cut)
      (leftmostToo.first leftmost.cut))

theorem isLeftmost_of_firstKeyword?
    (found : firstKeyword? text = some (before, severity, after)) :
    IsLeftmost text before severity after := by
  induction text generalizing before with
  | nil => cases found
  | cons c text ih =>
      rw [firstKeyword?] at found
      split at found
      · rename_i here
        cases found
        exact ⟨keywordAt?_eq_some here, fun _ => Nat.zero_le _⟩
      · rename_i nowhere
        rcases Option.map_eq_some_iff.mp found with
          ⟨⟨front, _, _⟩, later, same⟩
        cases same
        have leftmost := ih later
        refine ⟨congrArg (c :: ·) leftmost.cut, ?_⟩
        intro others rest other cut
        cases others with
        | nil =>
            have first : other.name.toList <+: c :: text := ⟨rest, cut.symm⟩
            exact absurd first (keywordAt?_eq_none_iff.mp nowhere other)
        | cons d others =>
            exact Nat.succ_le_succ (leftmost.first (List.cons.inj cut).2)

/-- The first name that is found is the leftmost one. -/
theorem firstKeyword?_eq_some_iff :
    firstKeyword? text = some (before, severity, after) ↔
      IsLeftmost text before severity after := by
  constructor
  · exact isLeftmost_of_firstKeyword?
  · intro leftmost
    cases found : firstKeyword? text with
    | none =>
        exact absurd ⟨before, after, leftmost.cut.symm⟩
          (firstKeyword?_eq_none_iff.mp found severity)
    | some cut =>
        rcases leftmost.unique (isLeftmost_of_firstKeyword? found) with
          ⟨rfl, rfl, rfl⟩
        rfl

/-! ### Names in a text of two parts -/

/-- No letters meet where two texts do. -/
def IsBorder (front behind : List Char) : Prop :=
  (∀ c ∈ front.getLast?, isAsciiLetter c = false) ∨
    ∀ c ∈ behind.head?, isAsciiLetter c = false

variable {head tail : List Char}

/-- A name stands in the one part or in the other. -/
theorem IsBorder.cut_cases (border : IsBorder head tail)
    (cut : head ++ tail = before ++ severity.name.toList ++ after) :
    (∃ middle, head = before ++ severity.name.toList ++ middle ∧
      after = middle ++ tail) ∨
    ∃ middle, before = head ++ middle ∧
      tail = middle ++ severity.name.toList ++ after := by
  rcases List.append_eq_append_iff.mp cut.symm with
    ⟨middle, within, rfl⟩ | ⟨middle, crossing, behind⟩
  · exact Or.inl ⟨middle, within, rfl⟩
  rcases List.append_eq_append_iff.mp crossing with
    ⟨others, inner, name⟩ | ⟨others, outer, rfl⟩
  · -- The name begins in the first part and ends in the second one.
    have letters := name_isAsciiLetter severity
    rw [name] at letters
    cases middle with
    | nil =>
        rw [List.append_nil] at name
        exact Or.inl ⟨[], by rw [inner, name, List.append_nil], behind.symm⟩
    | cons d middle =>
        rcases List.eq_nil_or_concat others with rfl | ⟨others, c, rfl⟩
        · exact Or.inr ⟨[], by rw [inner]; simp,
            by rw [behind, ← List.nil_append (d :: middle), ← name]; rfl⟩
        rcases border with last | first
        · have letter := letters c (by simp)
          rw [last c (by simp [inner])] at letter
          cases letter
        · have letter := letters d (by simp)
          rw [first d (by simp [behind])] at letter
          cases letter
  · exact Or.inr ⟨others, outer, behind⟩

/-- Two texts without a name have none together. -/
theorem IsBorder.not_isInfix (border : IsBorder head tail)
    (inHead : ∀ severity : Severity, ¬ severity.name.toList <:+: head)
    (inTail : ∀ severity : Severity, ¬ severity.name.toList <:+: tail)
    (severity : Severity) : ¬ severity.name.toList <:+: head ++ tail := by
  rintro ⟨before, after, cut⟩
  rcases border.cut_cases cut.symm with
    ⟨middle, inside, -⟩ | ⟨middle, -, behind⟩
  · exact inHead severity ⟨before, middle, inside.symm⟩
  · exact inTail severity ⟨middle, after, behind.symm⟩

/-- In front of text that does not begin with a letter, a name ends where it
ends without that text. -/
theorem keywordAt?_append (border : ∀ c ∈ tail.head?, isAsciiLetter c = false) :
    keywordAt? (head ++ tail) =
      (keywordAt? head).map fun found => (found.1, found.2 ++ tail) := by
  cases found : keywordAt? head with
  | some place =>
      rcases place with ⟨severity, rest⟩
      rw [keywordAt?_eq_some found, List.append_assoc, keywordAt?_name]
      rfl
  | none =>
      rw [keywordAt?_eq_none_iff] at found
      refine keywordAt?_eq_none_iff.mpr ?_
      rintro severity ⟨rest, begins⟩
      have cut : head ++ tail = [] ++ severity.name.toList ++ rest := begins.symm
      rcases IsBorder.cut_cases (Or.inr border) cut with
        ⟨middle, inside, -⟩ | ⟨middle, missing, behind⟩
      · exact found severity ⟨middle, inside.symm⟩
      · rw [(List.append_eq_nil_iff.mp missing.symm).2] at behind
        rcases List.exists_cons_of_ne_nil (name_ne_nil severity) with
          ⟨c, others, name⟩
        have letter := name_isAsciiLetter severity c (by simp [name])
        have outside := border c (by simp [behind, name])
        rw [letter] at outside
        cases outside

/-- Behind a text without a name, the leftmost name of the rest is the leftmost
one of all. -/
theorem IsLeftmost.append_left
    (foreign : ∀ severity : Severity, ¬ severity.name.toList <:+: head)
    (border : IsBorder head tail)
    (leftmost : IsLeftmost tail before severity after) :
    IsLeftmost (head ++ tail) (head ++ before) severity after := by
  refine ⟨by simp [leftmost.cut], ?_⟩
  intro front rest other cut
  rcases border.cut_cases cut with ⟨middle, inside, -⟩ | ⟨middle, rfl, behind⟩
  · exact absurd ⟨front, middle, inside.symm⟩ (foreign other)
  · simpa using leftmost.first behind

/-- A text of few letters has no severity name. -/
theorem not_isInfix_of_countP (few : text.countP isAsciiLetter ≤ 3)
    (severity : Severity) : ¬ severity.name.toList <:+: text := by
  intro inside
  have all : severity.name.toList.countP isAsciiLetter =
      severity.name.toList.length :=
    List.countP_eq_length.mpr (name_isAsciiLetter severity)
  have length : 4 ≤ severity.name.toList.length := by
    cases severity <;> decide
  have counts := inside.sublist.countP_le (p := isAsciiLetter)
  omega

end ClusterLog.Severity
