import ClusterLog.Pattern.Escape
import ClusterLog.Pattern.Reader

/-!
# Reading written patterns

The text of a pattern is read item by item.  No item takes a character of the
next one as a repetition of itself if that does not begin with one, and the
reader never comes to the end of its depth, which starts above three times the
length of the text.
-/

namespace ClusterLog.Pattern

open Text

/-- A text is the written form of items, none of which begins with a repetition;
`dot` is the class of `.`, `total` groups are open or closed behind the items,
`groups` were in front. -/
structure Writes (dot : CharClass) (groups : Nat) (text : List Char)
    (items : List Pattern) (total : Nat) : Prop where
  single : readRepetition? text = none
  reads : ∀ {depth}, 3 * text.length + 2 ≤ depth →
    readItems? dot depth groups text = some (items, total, [])

variable {dot : CharClass}

theorem Writes.nil (groups : Nat) : Writes dot groups [] [] groups where
  single := rfl
  reads {depth} enough := by
    rcases depth with _ | depth
    · omega
    · rfl

/-- One item in front of others. -/
theorem Writes.cons {groups inner total : Nat} {c : Char}
    {text rest left : List Char} {atom item : Pattern} {items : List Pattern}
    (bar : c ≠ '|') (closing : c ≠ ')')
    (single : readRepetition? (c :: text) = none)
    (begins : ∀ {depth}, 3 * text.length + 3 ≤ depth →
      readAtom? dot (depth + 1) groups (c :: text) = some (atom, inner, rest))
    (goesOn : readSuffix? atom rest = some (item, left))
    (shorter : left.length ≤ text.length)
    (others : Writes dot inner left items total) :
    Writes dot groups (c :: text) (item :: items) total where
  single := single
  reads {depth} enough := by
    rw [List.length_cons] at enough
    obtain ⟨depth, rfl⟩ : ∃ less, depth = less + 2 := ⟨depth - 2, by omega⟩
    have later : readItems? dot (depth + 1) inner left =
        some (items, total, []) :=
      others.reads (by omega)
    rw [readItems?]
    · simp [begins (show 3 * text.length + 3 ≤ depth by omega), goesOn, later]
    · exact List.cons_ne_nil c text
    · intro rest same
      exact bar (List.cons.inj same).1
    · intro rest same
      exact closing (List.cons.inj same).1

/-- A text that is the written form of items is the written form of a pattern. -/
theorem Writes.read?_eq {text : List Char} {items : List Pattern} {total : Nat}
    (writes : Writes dot 0 text items total) :
    read? dot text = some (sequence items, total) := by
  have items : readItems? dot (3 * text.length + 2) 0 text =
      some (items, total, []) := writes.reads (Nat.le_refl _)
  simp [read?, readAlternatives?, items]

/-! ## Repetitions -/

section Repetitions

variable {rest : List Char} (single : readRepetition? rest = none)
include single

/-- An item that is not repeated. -/
theorem readSuffix?_none (pattern : Pattern) :
    readSuffix? pattern rest = some (pattern, rest) := by
  rw [readSuffix?, single]

theorem readSuffix?_many (member : CharClass) :
    readSuffix? (.one member) ('*' :: rest) = some (many member, rest) := by
  have starts : readRepetition? ('*' :: rest) =
      some (⟨true, 0, none⟩, rest) := by
    simp only [readRepetition?, readBounds?, Option.map_some]
    split
    · -- A question mark would be a repetition of its own.
      rw [readRepetition?, readBounds?] at single
      cases single
    · rfl
  simp [readSuffix?, starts, single, isRepeatable, repeated, many]

theorem readSuffix?_few (member : CharClass) :
    readSuffix? (.one member) ('*' :: '?' :: rest) =
      some (few member, rest) := by
  have starts : readRepetition? ('*' :: '?' :: rest) =
      some (⟨false, 0, none⟩, rest) := rfl
  simp [readSuffix?, starts, single, isRepeatable, repeated, few]

end Repetitions

/-! ## Literal characters -/

theorem escapedPattern?_of_mem :
    ∀ c ∈ escapedChars, escapedPattern? c = some (char c) := by
  decide +kernel

/-- A character that is not escaped begins no repetition. -/
theorem readRepetition?_of_notMem {c : Char} (plain : c ∉ escapedChars)
    (rest : List Char) : readRepetition? (c :: rest) = none := by
  have none : readBounds? (c :: rest) = none := by
    unfold readBounds?
    split
    all_goals first
      | rfl
      | rename_i same; cases same; exact absurd (by decide) plain
  rw [readRepetition?, none]
  rfl

theorem readAtom?_of_notMem {c : Char} (plain : c ∉ escapedChars)
    (depth groups : Nat) (rest : List Char) :
    readAtom? dot (depth + 1) groups (c :: rest) =
      some (char c, groups, rest) := by
  have differs : ∀ {special}, c = special → special ∉ escapedChars :=
    fun same => same ▸ plain
  rw [readAtom?]
  · simp [readRepetition?_of_notMem plain]
  -- Each character that means something else is one of the escaped ones.
  all_goals intros
  all_goals exact differs (by assumption) (by decide)

/-- A literal character, escaped where it has to be. -/
theorem Writes.literal {groups total : Nat} {rest : List Char}
    {items : List Pattern} (c : Char)
    (others : Writes dot groups rest items total) :
    Writes dot groups (escapeChar c ++ rest) (char c :: items) total := by
  by_cases special : c ∈ escapedChars
  · have written : escapeChar c = ['\\', c] := if_pos (by simpa using special)
    rw [written]
    refine .cons (by decide) (by decide) rfl ?_
      (readSuffix?_none others.single _) (by simp) others
    intro depth _
    simp [readAtom?, escapedPattern?_of_mem c special]
  · have written : escapeChar c = [c] := if_neg (by simpa using special)
    rw [written]
    refine .cons ?_ ?_ (readRepetition?_of_notMem special rest) ?_
      (readSuffix?_none others.single _) (Nat.le_refl _) others
    · rintro rfl
      exact special (by decide)
    · rintro rfl
      exact special (by decide)
    · intro depth _
      exact readAtom?_of_notMem special depth groups rest

/-! ## Classes -/

section Classes

variable {groups total : Nat} {rest : List Char} {items : List Pattern}

/-- As many characters as possible of a class that is written with a backslash. -/
theorem Writes.many {letter : Char} {member : CharClass}
    (known : escapedPattern? letter = some (.one member))
    (others : Writes dot groups rest items total) :
    Writes dot groups ('\\' :: letter :: '*' :: rest)
      (Pattern.many member :: items) total := by
  refine .cons (by decide) (by decide) rfl ?_
    (readSuffix?_many others.single member) (by simp; omega) others
  intro depth _
  simp [readAtom?, known]

/-- As few characters of the class of `.` as possible. -/
theorem Writes.few (others : Writes dot groups rest items total) :
    Writes dot groups ('.' :: '*' :: '?' :: rest)
      (Pattern.few dot :: items) total := by
  refine .cons (by decide) (by decide) rfl ?_
    (readSuffix?_few others.single dot) (by simp; omega) others
  exact fun _ => rfl

/-- A closing bracket that closes nothing stands for itself. -/
theorem Writes.bracket (others : Writes dot groups rest items total) :
    Writes dot groups (']' :: rest) (char ']' :: items) total := by
  refine .cons (by decide) (by decide) rfl ?_
    (readSuffix?_none others.single _) (Nat.le_refl _) others
  exact fun _ => rfl

end Classes

end ClusterLog.Pattern
