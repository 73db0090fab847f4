import ClusterLog.Proofs.Computation
import ClusterLog.Proofs.Query.Reading

/-!
# Sheltered lexemes

Lexemes are sheltered by a column if a reader cannot begin a group among them
without reading a filter for that column first.  Where it can begin one depends
on what stands before: behind `+` and `^` a phrase goes on, and between the
parentheses of `NEAR` all phrases belong to one group.  Whatever a reader makes
of sheltered lexemes looks at the column only.
-/

namespace ClusterLog.Query

/-! ## Expressions that look at one column -/

/-- Every group of an expression is restricted to a column by its filter. -/
def Expression.LooksAt (column : Column) : Expression → Prop
  | groups items => ∀ group ∈ items, group.filter = some [column]
  | within _ body => body.LooksAt column
  | combined _ left right => left.LooksAt column ∧ right.LooksAt column

theorem Group.holds_congr {column : Column} {group : Group}
    (filtered : group.filter = some [column])
    (visible : Column → Bool) {found other : Column → List Term}
    (same : found column = other column) :
    group.holds visible found = group.holds visible other := by
  unfold holds
  congr 1
  funext here
  by_cases this : here = column
  · rw [this, same]
  · have hidden : allows group.filter here = false := by
      simp [allows, filtered, this]
    simp [hidden]

/-- The other columns do not matter. -/
theorem Expression.holdsFor_congr {column : Column} {expression : Expression}
    (looks : expression.LooksAt column) {found other : Column → List Term}
    (same : found column = other column) (visible : Column → Bool) :
    holdsFor found visible expression = holdsFor other visible expression := by
  induction expression generalizing visible with
  | groups items =>
      have each : ∀ group ∈ realGroups items,
          group.holds visible found = group.holds visible other := by
        intro group member
        exact Group.holds_congr (looks group (List.mem_filter.mp member).1)
          visible same
      have all :
          (realGroups items).all (·.holds visible found) =
            (realGroups items).all (·.holds visible other) := by
        rw [Bool.eq_iff_iff, List.all_eq_true, List.all_eq_true]
        constructor
        · intro holds group member
          exact each group member ▸ holds group member
        · intro holds group member
          exact (each group member).symm ▸ holds group member
      rw [holdsFor, holdsFor, all]
  | within columns body ih => exact ih looks _
  | combined operator left right ihLeft ihRight =>
      rw [holdsFor, holdsFor, ihLeft looks.1, ihRight looks.2]

/-! ## Shelter -/

/-- What stands before a list of lexemes. -/
inductive Place where
  /-- Something behind which a group can begin, or a phrase that can go on. -/
  | free
  /-- The name of a column. -/
  | named
  /-- A column filter. -/
  | filtered
  /-- A mark behind which a phrase goes on. -/
  | joined
  /-- The opening parenthesis of near phrases, and perhaps some of them. -/
  | near

/-- The name of groups of near phrases. -/
def nearName : List Char := "NEAR".toList

/--
No group begins without a filter for a column.  Where a reader stops anyway,
nothing is asked of the lexemes.
-/
def IsSheltered (column : Column) : Place → List Lexeme → Prop
  | .named, .mark ':' :: rest => IsSheltered column .filtered rest
  | .named, _ => False
  | .near, .mark ')' :: rest => IsSheltered column .free rest
  | .near, _ :: rest => IsSheltered column .near rest
  | .filtered, .text written :: rest =>
    if rest.head? = some (.mark '(') then
      written = nearName → IsSheltered column .near rest
    else IsSheltered column .free rest
  | .filtered, .mark '^' :: rest => IsSheltered column .joined rest
  | .filtered, .mark '(' :: _ => False
  | .joined, .text _ :: rest => IsSheltered column .free rest
  | .free, .text written :: rest =>
    written = column.name.toList ∧ IsSheltered column .named rest
  | .free, .operator _ :: rest => IsSheltered column .free rest
  | .free, .mark '+' :: rest => IsSheltered column .joined rest
  | .free, .mark c :: rest =>
    c ≠ '^' ∧ c ≠ '\x7b' ∧ c ≠ '-' ∧
      (c = '(' ∨ c = ')' ∨ c = '*' → IsSheltered column .free rest)
  | _, _ => True

variable {column : Column} {source : Source}

/-- In front of a group stands its filter. -/
theorem IsSheltered.exists_filter {written : List Char} {rest : Rest}
    (sheltered : IsSheltered column .free (.text written :: rest)) :
    written = column.name.toList ∧
    ∃ behind, rest = .mark ':' :: behind ∧
      IsSheltered column .filtered behind := by
  rcases sheltered with ⟨name, named⟩
  refine ⟨name, ?_⟩
  unfold IsSheltered at named
  split at named
  all_goals first
    | exact ⟨_, rfl, named⟩
    | simp_all

/-! ## Phrases -/

/-- What holds of the lexemes behind a text also does behind its star and
behind the texts that join it. -/
structure StaysBehindPhrases (holds : Rest → Prop) : Prop where
  star : ∀ rest, holds (.mark '*' :: rest) → holds rest
  join : ∀ written rest,
    holds (.mark '+' :: .text written :: rest) → holds rest

theorem staysBehindPhrases_free :
    StaysBehindPhrases (IsSheltered column .free) where
  star _ sheltered := sheltered.2.2.2 (Or.inr (Or.inr rfl))
  join _ _ sheltered := sheltered

theorem staysBehindPhrases_near :
    StaysBehindPhrases (IsSheltered column .near) where
  star _ sheltered := sheltered
  join _ _ sheltered := sheltered

section Phrases

variable {holds : Rest → Prop} (stays : StaysBehindPhrases holds)
include stays

theorem StaysBehindPhrases.behindStar {depth : Nat} {rest left : Rest}
    {star : Bool} (behind : holds rest)
    (reads : readStar source depth rest = .ok (star, left)) :
    holds left := by
  simp only [readStar, bind_eq_ok] at reads
  rcases reads with ⟨-, -, -, -, reads⟩
  split at reads
  · cases reads
    exact stays.star _ behind
  · cases reads
    exact behind

theorem StaysBehindPhrases.behindJoined {depth steps : Nat}
    {phrase whole : Phrase} {rest left : Rest} (behind : holds rest)
    (reads :
      readJoined source depth steps phrase rest = .ok (whole, left)) :
    holds left := by
  induction steps, phrase, rest using readJoined.induct with
  | case1 steps phrase rest ih =>
      unfold readJoined at reads
      simp only [bind_eq_ok] at reads
      rcases reads with ⟨-, -, reads⟩
      split at reads
      · simp only [bind_eq_ok, Prod.exists] at reads
        rcases reads with ⟨-, -, star, behindStar, starred, reads⟩
        have joined := stays.join _ _ behind
        exact ih _ star behindStar (stays.behindStar joined starred) reads
      · cases reads
  | case2 steps phrase rest other =>
      rw [readJoined.eq_3 source depth steps phrase rest other] at reads
      cases reads
      exact behind

theorem StaysBehindPhrases.behindPhrase {depth steps : Nat} {phrase : Phrase}
    {written : List Char} {rest left : Rest} (behind : holds rest)
    (reads :
      readPhrase source steps depth (.text written :: rest) =
        .ok (phrase, left)) :
    holds left := by
  simp only [readPhrase, bind_eq_ok, Prod.exists] at reads
  rcases reads with ⟨-, -, star, behindStar, starred, reads⟩
  exact stays.behindJoined (stays.behindStar behind starred) reads

end Phrases

/-- A phrase begins with a text. -/
theorem exists_text_of_readPhrase {depth steps : Nat} {phrase : Phrase}
    {rest left : Rest}
    (reads : readPhrase source steps depth rest = .ok (phrase, left)) :
    ∃ written others, rest = .text written :: others := by
  unfold readPhrase at reads
  split at reads
  · exact ⟨_, _, rfl⟩
  · cases reads

/-! ## Groups -/

theorem IsSheltered.behindText {written : List Char} {rest : Rest}
    (near : IsSheltered column .near (.text written :: rest)) :
    IsSheltered column .near rest :=
  near

theorem IsSheltered.behindPhrases {depth steps : Nat} {phrases : List Phrase}
    {rest left : Rest} (near : IsSheltered column .near rest)
    (reads : readPhrases source depth steps rest = .ok (phrases, left)) :
    IsSheltered column .near left := by
  induction steps, rest using readPhrases.induct generalizing phrases with
  | case1 steps written rest ih =>
      simp only [readPhrases, bind_eq_ok, Prod.exists] at reads
      rcases reads with ⟨phrase, behind, first, others, last, next, reads⟩
      cases reads
      exact ih behind (staysBehindPhrases_near.behindPhrase near.behindText first)
        next
  | case2 steps rest other =>
      rw [readPhrases.eq_2 source depth steps rest other] at reads
      cases reads
      exact near

theorem IsSheltered.behindDistance {depth : Nat} {distance : Option (List Char)}
    {rest left : Rest} (near : IsSheltered column .near rest)
    (reads : readDistance source depth rest = .ok (distance, left)) :
    IsSheltered column .near left := by
  unfold readDistance at reads
  split at reads
  · simp only [bind_eq_ok] at reads
    rcases reads with ⟨-, -, reads⟩
    split at reads
    · simp only [bind_eq_ok] at reads
      rcases reads with ⟨-, -, reads⟩
      cases reads
      exact near
    · cases reads
  · simp only [bind_eq_ok] at reads
    rcases reads with ⟨-, -, -, -, reads⟩
    cases reads
    exact near

/-- Near phrases end in front of something free, and only their own name begins
them. -/
theorem IsSheltered.behindNear {depth steps : Nat} {name : List Char}
    {group : Group} {rest left : Rest}
    (near : name = nearName → IsSheltered column .near rest)
    (reads : readNear source steps depth name rest = .ok (group, left)) :
    IsSheltered column .free left := by
  simp only [readNear, bind_eq_ok, Prod.exists] at reads
  rcases reads with ⟨first, behindFirst, readsFirst, others, behindOthers,
    readsOthers, distance, behind, readsDistance, reads⟩
  split at reads
  · rename_i behindAll
    simp only [bind_eq_ok] at reads
    rcases reads with ⟨-, -, -, -, reads⟩
    -- Another name is refused only when all of its phrases have been read.
    by_cases named : name = nearName
    · rcases exists_text_of_readPhrase readsFirst with ⟨text, rest, rfl⟩
      have inside := (near named).behindText
      have atOthers := staysBehindPhrases_near.behindPhrase inside readsFirst
      have atDistance := atOthers.behindPhrases readsOthers
      have closes : IsSheltered column .free behindAll :=
        atDistance.behindDistance readsDistance
      rw [if_neg (by simpa [nearName] using named)] at reads
      split at reads
      · cases reads
        exact closes
      · split at reads
        · cases reads
          exact closes
        · cases reads
    · rw [if_pos (by simpa [nearName] using named)] at reads
      cases reads
  · cases reads

/-- Behind its filter a group ends in front of something free. -/
theorem IsSheltered.behindGroup {depth steps : Nat} {group : Group}
    {rest left : Rest} (filtered : IsSheltered column .filtered rest)
    (reads : readGroup source steps depth rest = .ok (group, left)) :
    IsSheltered column .free left := by
  unfold readGroup at reads
  split at reads
  · simp only [bind_eq_ok, Prod.exists] at reads
    rcases reads with ⟨-, -, phrase, behind, readsPhrase, reads⟩
    cases reads
    rcases exists_text_of_readPhrase readsPhrase with ⟨written, rest, rfl⟩
    exact staysBehindPhrases_free.behindPhrase filtered readsPhrase
  · rename_i name rest
    simp only [bind_eq_ok] at reads
    rcases reads with ⟨-, -, readsNear⟩
    have inside : name = nearName → IsSheltered column .near rest := by
      simpa [IsSheltered] using filtered
    exact IsSheltered.behindNear inside readsNear
  · rename_i noNear
    simp only [bind_eq_ok, Prod.exists] at reads
    rcases reads with ⟨phrase, behind, readsPhrase, reads⟩
    cases reads
    rcases exists_text_of_readPhrase readsPhrase with ⟨written, rest, rfl⟩
    have noOpening : rest.head? ≠ some (.mark '(') := by
      intro opening
      rcases List.head?_eq_some_iff.mp opening with ⟨others, rfl⟩
      exact noNear _ _ rfl
    rw [IsSheltered, if_neg noOpening] at filtered
    exact staysBehindPhrases_free.behindPhrase filtered readsPhrase

/-- No group begins with another mark. -/
theorem readGroup_mark {c : Char} (noCaret : c ≠ '^') (steps depth : Nat)
    (rest : Rest) :
    readGroup source steps depth (.mark c :: rest) =
      .error (source.unexpected (.mark c :: rest)) := by
  unfold readGroup
  split
  · rename_i same
    exact absurd (Lexeme.mark.inj (List.cons.inj same).1) noCaret
  · rename_i same
    exact absurd (List.cons.inj same).1 (by simp)
  · rfl

/-! ## Filters -/

/-- What a reader finds where a group may begin: a filter for the column, or
nothing that begins a group. -/
theorem IsSheltered.filter_cases {depth : Nat}
    {filter : Option (List Column)} {rest left : Rest}
    (free : IsSheltered column .free rest)
    (reads : readFilter source depth rest = .ok (filter, left)) :
    filter = some [column] ∧ IsSheltered column .filtered left ∨
      filter = none ∧ left = rest ∧
        ∀ steps depth, ∃ fault,
          readGroup source steps depth rest = .error fault := by
  unfold readFilter at reads
  split at reads
  · rcases free.exists_filter with ⟨rfl, behind, split, filtered⟩
    obtain ⟨-, rfl⟩ := List.cons.inj split
    simp only [readColumns, columnOf_name, bind_eq_ok, pure_eq_ok,
      Except.ok.injEq, Prod.mk.injEq, Prod.exists] at reads
    rcases reads with
      ⟨columns, others, ⟨-, -, -, -, found, rfl, rfl, rfl⟩, reads⟩
    simp only [readColon, bind_eq_ok] at reads
    rcases reads with ⟨-, -, reads⟩
    cases reads
    exact Or.inl ⟨rfl, filtered⟩
  · exact absurd rfl free.2.1
  · exact absurd rfl free.2.2.1
  · rename_i noFilter noBrace noMinus
    cases reads
    refine Or.inr ⟨rfl, rfl, ?_⟩
    intro steps depth
    cases rest with
    | nil => exact ⟨_, rfl⟩
    | cons lexeme rest =>
        cases lexeme with
        | text written =>
            rcases free.exists_filter with ⟨-, behind, rfl, -⟩
            exact absurd rfl (noFilter _ _)
        | operator combining => exact ⟨_, rfl⟩
        | mark c =>
            by_cases caret : c = '^'
            · subst caret
              exact absurd rfl free.1
            · exact ⟨_, readGroup_mark caret steps depth rest⟩

/-! ## Lists of groups -/

theorem IsSheltered.behindGroups {depth steps : Nat} {groups : List Group}
    {rest left : Rest} (free : IsSheltered column .free rest)
    (reads : readGroups source depth steps rest = .ok (groups, left)) :
    (∀ group ∈ groups, group.filter = some [column]) ∧
      IsSheltered column .free left := by
  induction steps, rest using readGroups.induct generalizing groups with
  | case1 steps lexeme rest begins ih =>
      rw [readGroups, if_pos begins] at reads
      simp only [bind_eq_ok, Prod.exists] at reads
      rcases reads with ⟨filter, behindFilter, readsFilter, group, behindGroup,
        readsGroup, others, behind, readsOthers, reads⟩
      cases reads
      rcases free.filter_cases readsFilter with
        ⟨rfl, filtered⟩ | ⟨rfl, rfl, noGroup⟩
      · rcases ih behindGroup (filtered.behindGroup readsGroup) readsOthers with
          ⟨restricted, freeBehind⟩
        refine ⟨?_, freeBehind⟩
        intro other member
        rcases List.mem_cons.mp member with rfl | inside
        · rfl
        · exact restricted other inside
      · rcases noGroup steps (depth + 1 + filterParts none) with ⟨fault, fails⟩
        rw [fails] at readsGroup
        cases readsGroup
  | case2 steps lexeme rest begins =>
      rw [readGroups, if_neg begins] at reads
      cases reads
      exact ⟨by simp, free⟩
  | case3 steps rest other =>
      rw [readGroups.eq_2 source depth steps rest other] at reads
      cases reads
      exact ⟨by simp, free⟩

/-! ## Expressions -/

/-- What a reader makes of lexemes that are sheltered by a column looks at the
column only, and what it leaves is sheltered. -/
def StaysSheltered (column : Column)
    (read : Rest → Except Fault (Expression × Rest)) : Prop :=
  ∀ rest expression left,
    IsSheltered column .free rest →
    read rest = .ok (expression, left) →
    expression.LooksAt column ∧ IsSheltered column .free left

theorem staysSheltered_expression {steps strength depth : Nat}
    (operand : StaysSheltered column (readOperand source steps depth))
    (operators : ∀ first : Expression, first.LooksAt column →
      StaysSheltered column (readOperators source steps strength depth first)) :
    StaysSheltered column
      (readExpression source (steps + 1) strength depth) := by
  intro rest expression left free reads
  simp only [readExpression, bind_eq_ok, Prod.exists] at reads
  rcases reads with ⟨first, behind, readsFirst, reads⟩
  rcases operand _ _ _ free readsFirst with ⟨looks, freeBehind⟩
  exact operators first looks _ _ _ freeBehind reads

theorem looksAt_combine {operator : Operator} {left right whole : Expression}
    (looksLeft : left.LooksAt column) (looksRight : right.LooksAt column)
    (combines : combine source operator left right = .ok whole) :
    whole.LooksAt column := by
  simp only [combine] at combines
  split at combines
  · cases combines
    exact ⟨looksLeft, looksRight⟩
  · cases combines

theorem staysSheltered_operators {steps strength depth : Nat}
    (expression : ∀ strength depth,
      StaysSheltered column (readExpression source steps strength depth))
    (operators : ∀ first : Expression, first.LooksAt column →
      StaysSheltered column (readOperators source steps strength depth first))
    {first : Expression} (looks : first.LooksAt column) :
    StaysSheltered column
      (readOperators source (steps + 1) strength depth first) := by
  intro rest whole left free reads
  by_cases combined : ∃ operator others, rest = .operator operator :: others
  · rcases combined with ⟨operator, others, rfl⟩
    rw [readOperators] at reads
    split at reads
    · cases reads
      exact ⟨looks, free⟩
    · simp only [bind_eq_ok, Prod.exists] at reads
      rcases reads with
        ⟨-, -, right, behind, readsRight, -, -, both, combines, reads⟩
      have freeOthers : IsSheltered column .free others := free
      rcases expression _ _ _ _ _ freeOthers readsRight with
        ⟨looksRight, freeBehind⟩
      have looksBoth := looksAt_combine looks looksRight combines
      exact operators both looksBoth _ _ _ freeBehind reads
  · have ends : readOperators source (steps + 1) strength depth first rest =
        .ok (first, rest) :=
      readOperators.eq_2 source (steps + 1) strength depth first rest
        fun _ operator others _ same => combined ⟨operator, others, same⟩
    rw [ends] at reads
    cases reads
    exact ⟨looks, free⟩

theorem staysSheltered_operand {steps depth : Nat}
    (expression : ∀ strength depth,
      StaysSheltered column (readExpression source steps strength depth)) :
    StaysSheltered column (readOperand source (steps + 1) depth) := by
  intro rest whole left free reads
  simp only [readOperand, bind_eq_ok, Prod.exists] at reads
  rcases reads with ⟨filter, behind, readsFilter, reads⟩
  rcases free.filter_cases readsFilter with
    ⟨rfl, filtered⟩ | ⟨rfl, rfl, noGroup⟩
  · split at reads
    · exact filtered.elim
    · simp only [bind_eq_ok, Prod.exists] at reads
      rcases reads with
        ⟨first, behindFirst, readsFirst, others, behindAll, readsOthers, reads⟩
      cases reads
      have freeFirst := filtered.behindGroup readsFirst
      rcases freeFirst.behindGroups readsOthers with ⟨restricted, freeBehind⟩
      refine ⟨?_, freeBehind⟩
      intro group member
      rcases List.mem_cons.mp member with rfl | inside
      · rfl
      · exact restricted group inside
  · split at reads
    · simp only [bind_eq_ok, Prod.exists] at reads
      rcases reads with
        ⟨-, -, body, behindBody, readsBody, behindAll, readsClosing, reads⟩
      cases reads
      rename_i rest
      have freeInside : IsSheltered column .free rest :=
        free.2.2.2 (Or.inl rfl)
      rcases expression _ _ _ _ _ freeInside readsBody with
        ⟨looks, freeBody⟩
      refine ⟨looks, ?_⟩
      unfold readClosing at readsClosing
      split at readsClosing
      · simp only [bind_eq_ok] at readsClosing
        rcases readsClosing with ⟨-, -, readsClosing⟩
        cases readsClosing
        exact freeBody.2.2.2 (Or.inr (Or.inl rfl))
      · cases readsClosing
    · simp only [bind_eq_ok, Prod.exists] at reads
      rcases reads with ⟨first, behindFirst, readsFirst, reads⟩
      rcases noGroup steps (depth + filterParts none) with ⟨fault, fails⟩
      rw [fails] at readsFirst
      cases readsFirst

/-- All parts of a reader stay sheltered. -/
theorem staysSheltered (column : Column) (source : Source) (steps : Nat) :
    (∀ strength depth,
      StaysSheltered column (readExpression source steps strength depth)) ∧
    (∀ strength depth, ∀ first : Expression, first.LooksAt column →
      StaysSheltered column (readOperators source steps strength depth first)) ∧
    (∀ depth, StaysSheltered column (readOperand source steps depth)) := by
  -- Each part reads on with the others and one step less.
  induction steps with
  | zero =>
      refine ⟨?_, ?_, ?_⟩
      · intro strength depth rest whole left free reads
        rw [readExpression] at reads
        cases reads
      · intro strength depth first looks rest whole left free reads
        rw [readOperators.eq_2 _ _ _ _ _ _ (by simp)] at reads
        cases reads
        exact ⟨looks, free⟩
      · intro depth rest whole left free reads
        rw [readOperand] at reads
        cases reads
  | succ steps ih =>
      rcases ih with ⟨expression, operators, operand⟩
      refine ⟨?_, ?_, ?_⟩
      · intro strength depth
        exact staysSheltered_expression (operand depth)
          (operators strength depth)
      · intro strength depth first looks
        exact staysSheltered_operators expression (operators strength depth)
          looks
      · intro depth
        exact staysSheltered_operand expression

/-- A text whose lexemes are sheltered, if they are all there, becomes an
expression that looks at one column only. -/
theorem looksAt_of_readAll {limits : Limits} {text : List Char}
    {expression : Expression}
    (sheltered :
      (lexemes text).2 = none → IsSheltered column .free (lexemes text).1)
    (reads : readAll limits text = .ok expression) :
    expression.LooksAt column := by
  simp only [readAll, bind_eq_ok, Prod.exists] at reads
  rcases reads with ⟨whole, left, readsWhole, reads⟩
  split at reads
  · rename_i finished
    cases reads
    have noFault : (lexemes text).2 = none := by
      simpa using (Bool.and_eq_true_iff.mp finished).2
    exact ((staysSheltered column _ _).1 _ _ _ _ _ (sheltered noFault)
      readsWhole).1
  · cases reads

end ClusterLog.Query
