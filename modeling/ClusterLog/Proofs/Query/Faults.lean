import ClusterLog.Proofs.Computation
import ClusterLog.Proofs.Text.Find
import ClusterLog.Query.Request

/-!
# Faults of reading

Most faults are worded as faults of syntax, whatever texts they quote.  Three are
not: a distance that is no number, an expression with too many nested operators,
and a directive that nobody knows.  The first one needs a comma in front of a
text, the second one as many operators as may be nested, and the third one a
star at the beginning.
-/

namespace ClusterLog.Query

open Text

/-! ## Wordings -/

/-- Whether a fault says that the expression is malformed. -/
def Fault.isMalformed : Fault → Bool
  | unexpected _ | unterminatedText | unknownColumn _ | tooDeep => true
  | tooHigh _ | distanceNotInteger _ | unknownDirective _ => false

theorem Fault.isAboutSyntax_of_begins {message : String}
    (begins : "fts5:".toList <+: message.toList.map Char.toLower) :
    isAboutSyntax message = true := by
  rcases begins with ⟨rest, split⟩
  have drops := dropLiteral?_append "fts5:".toList rest
  rw [split] at drops
  rw [isAboutSyntax, drops]
  rfl

theorem Fault.isAboutSyntax_of_occurs {message : String}
    (occurs : "no such column".toList <:+: message.toList.map Char.toLower) :
    isAboutSyntax message = true := by
  rw [isAboutSyntax, occursIn_iff.mpr occurs, Bool.or_true, Bool.true_or]

theorem Fault.isAboutSyntax_of_isMalformed {fault : Fault}
    (malformed : fault.isMalformed = true) :
    isAboutSyntax fault.message = true := by
  cases fault with
  | unexpected written =>
      apply isAboutSyntax_of_begins
      have begins : "fts5:".toList <+:
          "fts5: syntax error near \"".toList.map Char.toLower := by
        decide +kernel
      have worded : (unexpected written).message =
          "fts5: syntax error near \"" ++ String.ofList written ++ "\"" :=
        rfl
      rw [worded, String.toList_append, String.toList_append,
        List.append_assoc, List.map_append]
      exact begins.trans (List.prefix_append _ _)
  | unterminatedText => decide +kernel
  | unknownColumn name =>
      apply isAboutSyntax_of_occurs
      have begins : "no such column".toList <+:
          "no such column: ".toList.map Char.toLower := by
        decide +kernel
      have worded : (unknownColumn name).message =
          "no such column: " ++ String.ofList name :=
        rfl
      rw [worded, String.toList_append, List.map_append]
      exact (begins.trans (List.prefix_append _ _)).isInfix
  | tooDeep => decide +kernel
  | tooHigh limit => cases malformed
  | distanceNotInteger written => cases malformed
  | unknownDirective name => cases malformed

/-! ## Where faults come from -/

/-- The number of operators among lexemes. -/
def countOperators (rest : Rest) : Nat :=
  rest.countP fun
    | .operator _ => true
    | _ => false

/-- Where a fault comes from in lexemes that make an expression of a height. -/
inductive Fault.ComesFrom (limits : Limits) (height : Nat) (rest : Rest) :
    Fault → Prop
  | malformed {fault : Fault} (malformed : fault.isMalformed = true) :
      ComesFrom limits height rest fault
  | distance {written : List Char}
      (behindComma : [.mark ',', .text written] <:+: rest)
      (noNumber : distanceOf? written = none) :
      ComesFrom limits height rest (.distanceNotInteger written)
  | height (exceeds : limits.height < height) :
      ComesFrom limits height rest (.tooHigh limits.height)

theorem Fault.ComesFrom.mono {limits : Limits} {height greater : Nat}
    {rest whole : Rest} {fault : Fault}
    (comes : fault.ComesFrom limits height rest)
    (least : height ≤ greater) (inside : rest <:+: whole) :
    fault.ComesFrom limits greater whole := by
  cases comes with
  | malformed malformed => exact .malformed malformed
  | distance behindComma noNumber =>
      exact .distance (behindComma.trans inside) noNumber
  | height exceeds => exact .height (by omega)

theorem countOperators_le {left rest : Rest} (behind : left <:+ rest) :
    countOperators left ≤ countOperators rest :=
  behind.sublist.countP_le

theorem countOperators_cons (operator : Operator) (rest : Rest) :
    countOperators (.operator operator :: rest) = countOperators rest + 1 := by
  simp [countOperators]

/-- What is missing behind the lexemes is missing because they are malformed. -/
def Source.IsSound (source : Source) : Prop :=
  ∀ fault, source.fault = some fault → fault.isMalformed = true

/-- Reading leaves the end of what there was, or finds it malformed. -/
abbrev Consumes {Value : Type} (rest : Rest) :
    Except Fault (Value × Rest) → Prop :=
  Satisfies (·.2 <:+ rest) (·.isMalformed = true)

/-- Reading leaves the end of what there was, or fails because of it; it makes no
expression. -/
abbrev ReadsFrom {Value : Type} (limits : Limits) (rest : Rest) :
    Except Fault (Value × Rest) → Prop :=
  Satisfies (·.2 <:+ rest) (·.ComesFrom limits 0 rest)

/-- Reading leaves the end of what there was behind an expression that is no
higher than a bound without the operators that are left, or fails because of
what there was. -/
abbrev IsBounded (limits : Limits) (height : Nat) (rest : Rest) :
    Except Fault (Expression × Rest) → Prop :=
  Satisfies
    (fun result => result.2 <:+ rest ∧
      result.1.height + countOperators result.2 ≤ height)
    (·.ComesFrom limits height rest)

variable {source : Source}

theorem comes_of_malformed {Value : Type} {returned : Value → Prop}
    {computation : Except Fault Value} {limits : Limits} {height : Nat}
    {rest : Rest}
    (satisfies : Satisfies returned (·.isMalformed = true) computation) :
    Satisfies returned (·.ComesFrom limits height rest) computation :=
  satisfies.mono (fun _ => id) fun _ => .malformed

/-- The faults of a part are faults of the whole. -/
theorem satisfies_of_part {Value : Type} {returned : Value → Prop}
    {limits : Limits} {height greater : Nat} {rest left : Rest}
    {computation : Except Fault Value}
    (satisfies :
      Satisfies returned (·.ComesFrom limits height left) computation)
    (least : height ≤ greater) (behind : left <:+ rest) :
    Satisfies returned (·.ComesFrom limits greater rest) computation :=
  satisfies.mono (fun _ => id) fun _ comes => comes.mono least behind.isInfix

/-- What comes behind something that was read. -/
theorem ReadsFrom.behind {Value : Type} {limits : Limits} {rest left : Rest}
    {computation : Except Fault (Value × Rest)}
    (reads : ReadsFrom limits left computation) (behind : left <:+ rest) :
    ReadsFrom limits rest computation :=
  reads.mono (fun _ further => further.trans behind)
    fun _ comes => comes.mono (Nat.le_refl 0) behind.isInfix

theorem IsBounded.behind {limits : Limits} {height greater : Nat}
    {rest left : Rest}
    {computation : Except Fault (Expression × Rest)}
    (bounded : IsBounded limits height left computation)
    (least : height ≤ greater) (behind : left <:+ rest) :
    IsBounded limits greater rest computation :=
  bounded.mono
    (fun _ result => ⟨result.1.trans behind, Nat.le_trans result.2 least⟩)
    fun _ comes => comes.mono least behind.isInfix

/-! ## Heights -/

theorem height_groups_le (groups : List Group) :
    (Expression.groups groups).height ≤ 1 := by
  rw [Expression.height]
  split <;> omega

theorem height_restrict (filter : Option (List Column))
    (expression : Expression) :
    (restrict filter expression).height = expression.height := by
  cases filter <;> rfl

theorem height_combined_le (operator : Operator) (left right : Expression) :
    (Expression.combined operator left right).height ≤
      max left.height right.height + 1 := by
  have level : ∀ operand, Expression.levelsOver operator operand ≤ 1 := by
    intro operand
    unfold Expression.levelsOver
    split <;> omega
  have overLeft := level left
  have overRight := level right
  rw [Expression.height]
  omega

theorem satisfies_combine (operator : Operator) (left right : Expression)
    (rest : Rest) :
    Satisfies (·.height ≤ max left.height right.height + 1)
      (·.ComesFrom source.limits (max left.height right.height + 1) rest)
      (combine source operator left right) := by
  have most := height_combined_le operator left right
  unfold combine
  dsimp only
  split
  · exact most
  · rename_i exceeds
    exact .height (by omega)

/-! ## Checks -/

theorem satisfies_keep (depth : Nat) :
    Satisfies (fun _ => True) (·.isMalformed = true) (source.keep depth) := by
  unfold Source.keep
  split
  · trivial
  · rfl

theorem satisfies_columnOf (written : List Char) :
    Satisfies (fun _ => True) (·.isMalformed = true) (columnOf written) := by
  unfold columnOf
  split
  · trivial
  · rfl

section Readers

variable (sound : source.IsSound)
include sound

theorem isMalformed_unexpected (rest : Rest) :
    (source.unexpected rest).isMalformed = true := by
  cases rest with
  | nil =>
      cases missing : source.fault with
      | none => simp [Source.unexpected, missing, Fault.isMalformed]
      | some fault => simpa [Source.unexpected, missing] using sound fault missing
  | cons lexeme rest => rfl

theorem satisfies_lookAhead (rest : Rest) :
    Satisfies (fun _ => True) (·.isMalformed = true)
      (source.lookAhead rest) := by
  unfold Source.lookAhead
  split
  · rename_i fault missing
    split
    · exact sound fault missing
    · trivial
  · trivial

/-! ## Phrases -/

theorem consumes_star (depth : Nat) (rest : Rest) :
    Consumes rest (readStar source depth rest) := by
  refine (satisfies_lookAhead sound rest).bind fun _ _ => ?_
  refine (satisfies_keep _).bind fun _ _ => ?_
  split
  · exact List.suffix_cons _ _
  · exact List.suffix_rfl

theorem consumes_joined (depth steps : Nat) (phrase : Phrase) (rest : Rest) :
    Consumes rest (readJoined source depth steps phrase rest) := by
  induction steps, phrase, rest using readJoined.induct with
  | case1 steps phrase rest ih =>
      unfold readJoined
      refine (satisfies_keep _).bind fun _ _ => ?_
      split
      · refine (satisfies_keep _).bind fun _ _ => ?_
        refine (consumes_star sound _ _).bind ?_
        rintro ⟨star, left⟩ starred
        refine (ih _ star left).mono (fun _ behind => ?_) fun _ => id
        exact behind.trans (starred.trans
          ((List.suffix_cons _ _).trans (List.suffix_cons _ _)))
      · exact isMalformed_unexpected sound _
  | case2 steps phrase rest other =>
      rw [readJoined.eq_3 source depth steps phrase rest other]
      exact List.suffix_rfl

theorem consumes_phrase (steps depth : Nat) (rest : Rest) :
    Consumes rest (readPhrase source steps depth rest) := by
  unfold readPhrase
  split
  · refine (satisfies_keep _).bind fun _ _ => ?_
    refine (consumes_star sound _ _).bind ?_
    rintro ⟨star, left⟩ starred
    refine (consumes_joined sound _ _ _ left).mono (fun _ behind => ?_)
      fun _ => id
    exact behind.trans (starred.trans (List.suffix_cons _ _))
  · exact isMalformed_unexpected sound _

theorem consumes_phrases (depth steps : Nat) (rest : Rest) :
    Consumes rest (readPhrases source depth steps rest) := by
  induction steps, rest using readPhrases.induct with
  | case1 steps written rest ih =>
      rw [readPhrases]
      refine (consumes_phrase sound _ _ _).bind ?_
      rintro ⟨phrase, left⟩ first
      refine (ih left).bind ?_
      rintro ⟨phrases, last⟩ others
      exact others.trans first
  | case2 steps rest other =>
      rw [readPhrases.eq_2 source depth steps rest other]
      exact List.suffix_rfl

/-! ## Filters -/

theorem consumes_names (depth : Nat) (rest : Rest) :
    Consumes rest (readNames source depth rest) := by
  induction rest using readNames.induct with
  | case1 written rest ih =>
      rw [readNames]
      refine (satisfies_keep _).bind fun _ _ => ?_
      refine (satisfies_lookAhead sound rest).bind fun _ _ => ?_
      refine (satisfies_columnOf written).bind fun _ _ => ?_
      refine ih.bind ?_
      rintro ⟨columns, left⟩ others
      exact others.trans (List.suffix_cons _ _)
  | case2 rest =>
      rw [readNames]
      refine (satisfies_keep _).bind fun _ _ => ?_
      exact List.suffix_cons _ _
  | case3 rest noText noBrace =>
      rw [readNames.eq_3 source depth rest noText noBrace]
      exact isMalformed_unexpected sound _

theorem consumes_columns (depth : Nat) (rest : Rest) :
    Consumes rest (readColumns source depth rest) := by
  unfold readColumns
  split
  · rename_i written rest
    refine (satisfies_keep _).bind fun _ _ => ?_
    refine (satisfies_lookAhead sound rest).bind fun _ _ => ?_
    refine (satisfies_columnOf written).bind fun _ _ => ?_
    exact List.suffix_cons _ _
  · refine (satisfies_keep _).bind fun _ _ => ?_
    split
    · rename_i written rest
      refine (satisfies_keep _).bind fun _ _ => ?_
      refine (satisfies_lookAhead sound rest).bind fun _ _ => ?_
      refine (satisfies_columnOf written).bind fun _ _ => ?_
      refine (consumes_names sound _ rest).bind ?_
      rintro ⟨columns, left⟩ others
      exact others.trans ((List.suffix_cons _ _).trans (List.suffix_cons _ _))
    · exact isMalformed_unexpected sound _
  · exact isMalformed_unexpected sound _

theorem consumes_colon (depth : Nat) (columns : List Column) (rest : Rest) :
    Consumes rest (readColon source depth columns rest) := by
  unfold readColon
  split
  · refine (satisfies_keep _).bind fun _ _ => ?_
    exact List.suffix_cons _ _
  · exact isMalformed_unexpected sound _

theorem consumes_columnsAndColon (choose : List Column → List Column)
    (depth inner : Nat) (rest : Rest) :
    Consumes rest (do
      let (columns, rest) ← readColumns source inner rest
      readColon source depth (choose columns) rest) := by
  refine (consumes_columns sound _ _).bind ?_
  rintro ⟨columns, left⟩ named
  exact (consumes_colon sound _ _ left).mono
    (fun _ behind => behind.trans named) fun _ => id

theorem consumes_filter (depth : Nat) (rest : Rest) :
    Consumes rest (readFilter source depth rest) := by
  unfold readFilter
  split
  · exact consumes_columnsAndColon sound id depth depth _
  · exact consumes_columnsAndColon sound id depth depth _
  · rename_i rest
    refine (satisfies_keep _).bind fun _ _ => ?_
    exact (consumes_columnsAndColon sound otherColumns depth (depth + 1)
      rest).mono (fun _ behind => behind.trans (List.suffix_cons _ _))
        fun _ => id
  · exact List.suffix_rfl

/-! ## Groups -/

theorem satisfies_distance (depth : Nat) (rest : Rest) :
    Satisfies
      (fun result => result.2 <:+ rest ∧
        ∀ written ∈ result.1, [.mark ',', .text written] <:+: rest)
      (·.isMalformed = true) (readDistance source depth rest) := by
  unfold readDistance
  split
  · refine (satisfies_keep _).bind fun _ _ => ?_
    split
    · rename_i written rest
      refine (satisfies_keep _).bind fun _ _ => ?_
      refine ⟨(List.suffix_cons _ _).trans (List.suffix_cons _ _), ?_⟩
      rintro text ⟨⟩
      exact (List.prefix_append [.mark ',', .text written] rest).isInfix
    · exact isMalformed_unexpected sound _
  · refine (satisfies_lookAhead sound rest).bind fun _ _ => ?_
    refine (satisfies_keep _).bind fun _ _ => ?_
    exact ⟨List.suffix_rfl, by simp⟩

theorem readsFrom_near (steps depth : Nat) (name : List Char) (rest : Rest) :
    ReadsFrom source.limits rest (readNear source steps depth name rest) := by
  refine (comes_of_malformed (consumes_phrase sound _ _ rest)).bind ?_
  rintro ⟨first, behindFirst⟩ readsFirst
  refine (comes_of_malformed
    (consumes_phrases sound _ _ behindFirst)).bind ?_
  rintro ⟨others, behindOthers⟩ readsOthers
  refine (comes_of_malformed
    (satisfies_distance sound _ behindOthers)).bind ?_
  rintro ⟨written, behind⟩ ⟨readsDistance, comma⟩
  have passed : behindOthers <:+ rest := readsOthers.trans readsFirst
  dsimp only
  split
  · rename_i left
    have leaves : left <:+ rest :=
      (List.suffix_cons _ left).trans (readsDistance.trans passed)
    refine (comes_of_malformed (satisfies_keep _)).bind fun _ _ => ?_
    refine (comes_of_malformed
      (satisfies_lookAhead sound left)).bind fun _ _ => ?_
    split
    · exact .malformed rfl
    · cases written with
      | none => exact leaves
      | some written =>
          cases number : distanceOf? written with
          | some distance =>
              simp only [number]
              exact leaves
          | none =>
              simp only [number]
              exact .distance ((comma written rfl).trans passed.isInfix) number
  · exact .malformed (isMalformed_unexpected sound _)

theorem readsFrom_group (steps depth : Nat) (rest : Rest) :
    ReadsFrom source.limits rest (readGroup source steps depth rest) := by
  unfold readGroup
  split
  · rename_i rest
    refine (comes_of_malformed (satisfies_keep _)).bind fun _ _ => ?_
    refine (comes_of_malformed (consumes_phrase sound _ _ rest)).bind ?_
    rintro ⟨phrase, left⟩ reads
    exact reads.trans (List.suffix_cons _ _)
  · rename_i name rest
    have behind : rest <:+ .text name :: .mark '(' :: rest :=
      (List.suffix_cons _ _).trans (List.suffix_cons _ _)
    refine (comes_of_malformed (satisfies_keep _)).bind fun _ _ => ?_
    exact (readsFrom_near sound _ _ name rest).mono
      (fun _ reads => reads.trans behind)
      fun _ comes => comes.mono (Nat.le_refl 0) behind.isInfix
  · refine (comes_of_malformed (consumes_phrase sound _ _ _)).bind ?_
    rintro ⟨phrase, left⟩ reads
    exact reads

theorem readsFrom_groups (depth steps : Nat) (rest : Rest) :
    ReadsFrom source.limits rest (readGroups source depth steps rest) := by
  induction steps, rest using readGroups.induct with
  | case1 steps lexeme rest begins ih =>
      rw [readGroups, if_pos begins]
      refine (comes_of_malformed
        (consumes_filter sound _ (lexeme :: rest))).bind ?_
      rintro ⟨filter, behindFilter⟩ filtered
      refine ((readsFrom_group sound _ _ behindFilter).behind filtered).bind ?_
      rintro ⟨group, behindGroup⟩ grouped
      refine ((ih behindGroup).behind grouped).bind ?_
      rintro ⟨groups, left⟩ others
      exact others
  | case2 steps lexeme rest begins =>
      rw [readGroups, if_neg begins]
      exact List.suffix_rfl
  | case3 steps rest other =>
      rw [readGroups.eq_2 source depth steps rest other]
      exact List.suffix_rfl

/-! ## Expressions -/

theorem consumes_closing (depth : Nat) (rest : Rest) :
    Satisfies (· <:+ rest) (·.isMalformed = true)
      (readClosing source depth rest) := by
  unfold readClosing
  split
  · refine (satisfies_keep _).bind fun _ _ => ?_
    exact List.suffix_cons _ _
  · exact isMalformed_unexpected sound _

omit sound in
theorem bounded_expression {steps strength depth : Nat}
    (operand : ∀ rest,
      IsBounded source.limits (countOperators rest + 1) rest
        (readOperand source steps depth rest))
    (operators : ∀ first rest,
      IsBounded source.limits (max first.height 1 + countOperators rest) rest
        (readOperators source steps strength depth first rest))
    (rest : Rest) :
    IsBounded source.limits (countOperators rest + 1) rest
      (readExpression source (steps + 1) strength depth rest) := by
  rw [readExpression]
  refine (operand rest).bind ?_
  rintro ⟨first, behind⟩ ⟨left, height⟩
  have fewer := countOperators_le left
  exact (operators first behind).behind (by dsimp only at height fewer ⊢; omega)
    left

theorem bounded_operators {steps strength depth : Nat}
    (expression : ∀ strength depth rest,
      IsBounded source.limits (countOperators rest + 1) rest
        (readExpression source steps strength depth rest))
    (operators : ∀ first rest,
      IsBounded source.limits (max first.height 1 + countOperators rest) rest
        (readOperators source steps strength depth first rest))
    (first : Expression) (rest : Rest) :
    IsBounded source.limits (max first.height 1 + countOperators rest) rest
      (readOperators source (steps + 1) strength depth first rest) := by
  have ends : first.height + countOperators rest ≤
      max first.height 1 + countOperators rest := by
    omega
  by_cases combined : ∃ operator others, rest = .operator operator :: others
  · rcases combined with ⟨operator, others, rfl⟩
    have passed := List.suffix_cons (Lexeme.operator operator) others
    have one := countOperators_cons operator others
    rw [readOperators]
    split
    · exact ⟨List.suffix_rfl, ends⟩
    · refine (comes_of_malformed (satisfies_keep _)).bind fun _ _ => ?_
      refine (satisfies_of_part (expression _ _ others) (by omega) passed).bind ?_
      rintro ⟨right, behind⟩ ⟨left, height⟩
      have fewer := countOperators_le left
      dsimp only at height fewer ⊢
      refine (comes_of_malformed (satisfies_lookAhead sound behind)).bind
        fun _ _ => ?_
      refine (satisfies_of_part (satisfies_combine operator first right behind)
        (by omega) (left.trans passed)).bind ?_
      intro whole most
      exact (operators whole behind).behind (by omega) (left.trans passed)
  · have stops : readOperators source (steps + 1) strength depth first rest =
        .ok (first, rest) :=
      readOperators.eq_2 source (steps + 1) strength depth first rest
        fun _ operator others _ same => combined ⟨operator, others, same⟩
    rw [stops]
    exact ⟨List.suffix_rfl, ends⟩

theorem bounded_operand {steps depth : Nat}
    (expression : ∀ strength depth rest,
      IsBounded source.limits (countOperators rest + 1) rest
        (readExpression source steps strength depth rest))
    (rest : Rest) :
    IsBounded source.limits (countOperators rest + 1) rest
      (readOperand source (steps + 1) depth rest) := by
  rw [readOperand]
  refine (comes_of_malformed (consumes_filter sound depth rest)).bind ?_
  rintro ⟨filter, behind⟩ filtered
  have fewer := countOperators_le filtered
  dsimp only at fewer ⊢
  split
  · rename_i inside
    have opened := (List.suffix_cons (Lexeme.mark '(') inside).trans filtered
    have fewer := countOperators_le opened
    refine (comes_of_malformed (satisfies_keep _)).bind fun _ _ => ?_
    refine ((expression _ _ inside).behind (by omega) opened).bind ?_
    rintro ⟨body, left⟩ ⟨behindBody, height⟩
    refine (comes_of_malformed (consumes_closing sound _ left)).bind ?_
    intro last closed
    have fewer := countOperators_le closed
    refine ⟨closed.trans behindBody, ?_⟩
    dsimp only at height ⊢
    rw [height_restrict]
    omega
  · refine (satisfies_of_part (readsFrom_group sound _ _ behind) (Nat.zero_le _)
      filtered).bind ?_
    rintro ⟨group, behindGroup⟩ grouped
    refine (satisfies_of_part (readsFrom_groups sound _ _ behindGroup) (Nat.zero_le _)
      (grouped.trans filtered)).bind ?_
    rintro ⟨groups, left⟩ others
    have leaves := others.trans (grouped.trans filtered)
    have fewer := countOperators_le leaves
    have low := height_groups_le ({ group with filter } :: groups)
    exact ⟨leaves, by dsimp only at fewer ⊢; omega⟩

/-- All parts of a reader are bounded by the operators that they read. -/
theorem readers_bounded (steps : Nat) :
    (∀ strength depth rest,
      IsBounded source.limits (countOperators rest + 1) rest
        (readExpression source steps strength depth rest)) ∧
    (∀ strength depth first rest,
      IsBounded source.limits (max first.height 1 + countOperators rest) rest
        (readOperators source steps strength depth first rest)) ∧
    (∀ depth rest,
      IsBounded source.limits (countOperators rest + 1) rest
        (readOperand source steps depth rest)) := by
  -- Each part reads on with the others and one step less.
  induction steps with
  | zero =>
      refine ⟨?_, ?_, ?_⟩
      · intro strength depth rest
        rw [readExpression]
        exact .malformed (isMalformed_unexpected sound rest)
      · intro strength depth first rest
        rw [readOperators.eq_2 _ _ _ _ _ _ (by simp)]
        exact ⟨List.suffix_rfl, by dsimp only; omega⟩
      · intro depth rest
        rw [readOperand]
        exact .malformed (isMalformed_unexpected sound rest)
  | succ steps ih =>
      rcases ih with ⟨expression, operators, operand⟩
      refine ⟨?_, ?_, ?_⟩
      · intro strength depth
        exact bounded_expression (operand depth) (operators strength depth)
      · intro strength depth
        exact bounded_operators sound expression (operators strength depth)
      · intro depth
        exact bounded_operand sound expression

end Readers

/-! ## Whole expressions -/

/-- Cutting stops only where a text is malformed. -/
theorem isMalformed_of_lexemesFrom (begun : PartialLexeme)
    (text : List Char) :
    ∀ fault, (lexemesFrom begun text).2 = some fault →
      fault.isMalformed = true := by
  have beginning : ∀ c fault,
      PartialLexeme.begin c = .error fault → fault.isMalformed = true := by
    intro c fault begins
    simp only [PartialLexeme.begin] at begins
    repeat' split at begins
    all_goals cases begins
    rfl
  fun_induction lexemesFrom begun text with
  | case1 => nofun
  | case2 characters => nofun
  | case3 characters =>
      rintro fault ⟨⟩
      rfl
  | case4 characters rest ih => exact ih
  | case5 characters rest _ others fault cuts ih => simpa [cuts] using ih
  | case6 characters c rest _ _ ih => exact ih
  | case7 characters c rest plain ih => exact ih
  | case8 characters c rest plain fault begins =>
      rintro other ⟨⟩
      exact beginning c fault begins
  | case9 characters c rest plain complete begun begins others fault cuts ih =>
      simpa [cuts] using ih
  | case10 c rest fault begins =>
      rintro other ⟨⟩
      exact beginning c fault begins
  | case11 c rest complete begun begins others fault cuts ih =>
      simpa [cuts] using ih

/-- Reading a whole expression fails because of its lexemes. -/
theorem satisfies_readAll (limits : Limits) (text : List Char) :
    Satisfies (fun _ => True)
      (·.ComesFrom limits (countOperators (lexemes text).1 + 1)
        (lexemes text).1)
      (readAll limits text) := by
  rcases cuts : lexemes text with ⟨parts, fault⟩
  have sound : Source.IsSound { limits, fault } := by
    intro missing same
    have stops := isMalformed_of_lexemesFrom .nothing
      (text.takeWhile fun c => c.toNat != 0) missing
    rw [← lexemes, cuts] at stops
    exact stops same
  rw [readAll, cuts]
  refine ((readers_bounded sound _).1 0 0 parts).bind ?_
  rintro ⟨expression, left⟩ -
  dsimp only
  split
  · trivial
  · exact .malformed (isMalformed_unexpected sound left)

/-! ## Faults that are not worded as faults of syntax -/

/-- The faults of an expression that say something else than that it is
malformed, and what an expression has that gives rise to them. -/
inductive Fault.Escapes (limits : Limits) (expression : List Char) :
    Fault → Prop
  | directive {rest name : List Char} (star : expression = '*' :: rest)
      (unknown : Request.ofDirective (rest.takeWhile fun c => c.toNat != 0) =
        .error (.unknownDirective name)) :
      Escapes limits expression (.unknownDirective name)
  | distance {written : List Char}
      (behindComma :
        [.mark ',', .text written] <:+: (lexemes expression).1)
      (noNumber : written.all isAsciiDigit = false) :
      Escapes limits expression (.distanceNotInteger written)
  | height
      (many : limits.height ≤ countOperators (lexemes expression).1) :
      Escapes limits expression (.tooHigh limits.height)

theorem not_all_of_distanceOf? {written : List Char}
    (noNumber : distanceOf? written = none) :
    written.all isAsciiDigit = false := by
  unfold distanceOf? at noNumber
  split at noNumber
  · cases noNumber
  · rename_i other
    simpa using other

theorem Fault.ComesFrom.escapes {limits : Limits} {expression : List Char}
    {fault : Fault}
    (comes : fault.ComesFrom limits
      (countOperators (lexemes expression).1 + 1) (lexemes expression).1) :
    fault.isMalformed = true ∨ fault.Escapes limits expression := by
  cases comes with
  | malformed malformed => exact Or.inl malformed
  | distance behindComma noNumber =>
      exact Or.inr (.distance behindComma (not_all_of_distanceOf? noNumber))
  | height exceeds => exact Or.inr (.height (by omega))

theorem exists_name_of_ofDirective {text : List Char} {fault : Fault}
    (fails : Request.ofDirective text = .error fault) :
    ∃ name, fault = .unknownDirective name := by
  simp only [Request.ofDirective] at fails
  split at fails
  · cases fails
  · cases fails
    exact ⟨_, rfl⟩

/-- An expression is malformed, or it has what gives rise to another fault. -/
theorem satisfies_ofExpression (limits : Limits) (expression : List Char) :
    Satisfies (fun _ => True)
      (fun fault => fault.isMalformed = true ∨ fault.Escapes limits expression)
      (Request.ofExpression limits expression) := by
  unfold Request.ofExpression
  split
  · rename_i rest
    cases result : Request.ofDirective
      (rest.takeWhile fun c => c.toNat != 0) with
    | ok request => trivial
    | error fault =>
        rcases exists_name_of_ofDirective result with ⟨name, rfl⟩
        exact Or.inr (.directive rfl result)
  · have reads := satisfies_readAll limits expression
    cases result : readAll limits expression with
    | ok whole => trivial
    | error fault =>
        rw [result] at reads
        exact reads.escapes

end ClusterLog.Query
