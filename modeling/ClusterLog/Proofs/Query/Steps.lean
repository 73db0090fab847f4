import ClusterLog.Query.Scope

/-!
# The steps of scoping

What a single token becomes, and what is known behind it, by the state that it
is met in.  Whatever holds of a scoped query follows from these steps.
-/

namespace ClusterLog.Query

open Text

/-- What a token becomes in front of the token `next`, and what is known behind
it. -/
inductive ScopeStep (column : List Char) (state : ScopeState) :
    Token → Option Token → List (List Char) → ScopeState → Prop where
  /-- A token of near phrases. -/
  | inner {token : Token} {next : Option Token}
    (grouped : state.inGroup = true) :
    ScopeStep column state token next [groupText token]
      { state with inGroup := token != .mark ')' }
  | opening {next : Option Token}
    (ungrouped : state.inGroup = false) :
    ScopeStep column state (.mark '(') next [['(']]
      { state with
        groups := state.isCovered :: state.groups
        filtered := false
        afterPhrase := false }
  | closing {next : Option Token}
    (ungrouped : state.inGroup = false) :
    ScopeStep column state (.mark ')') next [[')']]
      { state with groups := state.groups.tail, afterPhrase := false }
  | join {next : Option Token}
    (ungrouped : state.inGroup = false)
    (afterPhrase : state.afterPhrase = true) :
    ScopeStep column state (.mark '+') next [['+']]
      { state with joining := true, afterPhrase := false }
  /-- A plus sign that joins nothing. -/
  | skip {next : Option Token}
    (ungrouped : state.inGroup = false) (noPhrase : state.afterPhrase = false) :
    ScopeStep column state (.mark '+') next [] state
  | first {next : Option Token}
    (ungrouped : state.inGroup = false) :
    ScopeStep column state (.mark '^') next
      (filterText column (state.isCovered || state.joining) ++ [['^']])
      { state with filtered := false, joining := true, afterPhrase := false }
  /-- A mark that changes nothing. -/
  | mark {c : Char} {next : Option Token}
    (ungrouped : state.inGroup = false) (other : c ∉ "()+^".toList) :
    ScopeStep column state (.mark c) next [[c]] state
  /-- The names of a filter. -/
  | names {token : Token} {next : Option Token}
    (ungrouped : state.inGroup = false) (noMark : token.isMark = false)
    (colon : next = some (.mark ':')) :
    ScopeStep column state token next [token.written]
      { state with filtered := true, afterPhrase := false }
  | operator {characters : List Char} {next : Option Token}
    (ungrouped : state.inGroup = false) (noNames : next ≠ some (.mark ':'))
    (combines : characters ∈ operatorWords) :
    ScopeStep column state (.word characters) next [characters]
      { state with afterPhrase := false }
  /-- The name of near phrases in front of their parenthesis. -/
  | near {next : Option Token}
    (ungrouped : state.inGroup = false) (opens : next = some (.mark '(')) :
    ScopeStep column state (.word "NEAR".toList) next
      (filterText column state.isCovered ++ ["NEAR".toList])
      { state with filtered := false, afterPhrase := false, inGroup := true }
  | phrase {token : Token} {next : Option Token}
    (ungrouped : state.inGroup = false)
    (noMark : token.isMark = false) (noOperator : token.isOperator = false)
    (noNames : next ≠ some (.mark ':'))
    (noNear : token = .word "NEAR".toList → next ≠ some (.mark '(')) :
    ScopeStep column state token next
      (filterText column (state.isCovered || state.joining) ++
        [phraseText token])
      { state with filtered := false, joining := false, afterPhrase := true }

variable (column : List Char) {state : ScopeState}

theorem scopeStep_mark (ungrouped : state.inGroup = false) (c : Char)
    (next : Option Token) :
    ScopeStep column state (.mark c) next (scopeMark column state c).1
      (scopeMark column state c).2 := by
  unfold scopeMark
  split
  · exact .opening ungrouped
  · exact .closing ungrouped
  · split
    · rename_i afterPhrase
      exact .join ungrouped afterPhrase
    · rename_i noPhrase
      exact .skip ungrouped (by simpa using noPhrase)
  · exact .first ungrouped
  · rename_i noOpening noClosing noPlus noCaret
    refine .mark ungrouped ?_
    simpa using ⟨noOpening, noClosing, noPlus, noCaret⟩

theorem scopeStep_word (ungrouped : state.inGroup = false) {token : Token}
    (noMark : token.isMark = false) (next : Option Token) :
    ScopeStep column state token next (scopeWord column state token next).1
      (scopeWord column state token next).2 := by
  unfold scopeWord
  split
  · rename_i colon
    exact .names ungrouped noMark colon
  · rename_i noNames
    split
    · rename_i combines
      cases token with
      | word characters =>
          exact .operator ungrouped noNames
            (by simpa [Token.isOperator] using combines)
      | mark c | quoted written | braced written => cases combines
    · rename_i noOperator
      split
      · rename_i isNear
        rcases isNear with ⟨rfl, opens⟩
        exact .near ungrouped opens
      · rename_i noNear
        exact .phrase ungrouped noMark (by simpa using noOperator) noNames
          fun isName opens => noNear ⟨isName, opens⟩

theorem scopeToken_of_grouped (grouped : state.inGroup = true) (token : Token)
    (next : Option Token) :
    scopeToken column state token next =
      ([groupText token], { state with inGroup := token != .mark ')' }) := by
  unfold scopeToken
  rw [if_pos grouped]

theorem scopeToken_mark (ungrouped : state.inGroup = false) (c : Char)
    (next : Option Token) :
    scopeToken column state (.mark c) next = scopeMark column state c := by
  unfold scopeToken
  rw [if_neg (by simp [ungrouped])]

theorem scopeToken_word (ungrouped : state.inGroup = false) {token : Token}
    (noMark : token.isMark = false) (next : Option Token) :
    scopeToken column state token next = scopeWord column state token next := by
  unfold scopeToken
  rw [if_neg (by simp [ungrouped])]
  cases token with
  | mark c => cases noMark
  | quoted written | braced written | word written => rfl

/-- Every token makes one of the steps. -/
theorem scopeStep (state : ScopeState) (token : Token) (next : Option Token) :
    ScopeStep column state token next (scopeToken column state token next).1
      (scopeToken column state token next).2 := by
  cases grouped : state.inGroup with
  | true =>
      rw [scopeToken_of_grouped column grouped]
      exact .inner grouped
  | false =>
      cases isMark : token.isMark with
      | true =>
          cases token with
          | mark c =>
              rw [scopeToken_mark column grouped]
              exact scopeStep_mark column grouped c next
          | quoted written | braced written | word written => cases isMark
      | false =>
          rw [scopeToken_word column grouped isMark]
          exact scopeStep_word column grouped isMark next

/-- A token makes no other step. -/
theorem ScopeStep.scopeToken_eq {column : List Char} {after : ScopeState}
    {token : Token} {next : Option Token} {parts : List (List Char)}
    (step : ScopeStep column state token next parts after) :
    scopeToken column state token next = (parts, after) := by
  cases step with
  | inner grouped => exact scopeToken_of_grouped column grouped token next
  | opening ungrouped | closing ungrouped | first ungrouped =>
      exact scopeToken_mark column ungrouped _ next
  | join ungrouped afterPhrase =>
      rw [scopeToken_mark column ungrouped, scopeMark, if_pos afterPhrase]
  | skip ungrouped noPhrase =>
      rw [scopeToken_mark column ungrouped, scopeMark, noPhrase]
      rfl
  | mark ungrouped other =>
      rw [scopeToken_mark column ungrouped]
      unfold scopeMark
      split
      · exact absurd (by decide) other
      · exact absurd (by decide) other
      · exact absurd (by decide) other
      · exact absurd (by decide) other
      · rfl
  | names ungrouped noMark colon =>
      rw [scopeToken_word column ungrouped noMark, scopeWord, if_pos colon]
  | @operator characters _ ungrouped noNames combines =>
      have isOperator : (Token.word characters).isOperator = true := by
        simpa [Token.isOperator] using combines
      rw [scopeToken_word column ungrouped rfl, scopeWord, if_neg noNames,
        if_pos isOperator]
      rfl
  | near ungrouped opens =>
      subst opens
      exact scopeToken_word column ungrouped rfl _
  | phrase ungrouped noMark noOperator noNames noNear =>
      have noGroup : ¬ (token = .word "NEAR".toList ∧
          next = some (.mark '(')) := fun both => noNear both.1 both.2
      rw [scopeToken_word column ungrouped noMark, scopeWord, if_neg noNames,
        if_neg (by simp [noOperator]), if_neg noGroup, scopePhrase]

theorem ScopeStep.scopeParts_eq {column : List Char} {after : ScopeState}
    {token : Token} {rest : List Token} {parts : List (List Char)}
    (step : ScopeStep column state token rest.head? parts after) :
    scopeParts column state (token :: rest) =
      parts ++ scopeParts column after rest := by
  rw [scopeParts, step.scopeToken_eq]

theorem scopeParts_cons (state : ScopeState) (token : Token)
    (rest : List Token) :
    scopeParts column state (token :: rest) =
      (scopeToken column state token rest.head?).1 ++
        scopeParts column (scopeToken column state token rest.head?).2 rest :=
  rfl

/-- A token becomes nothing, or what it is written as behind a filter that may
be missing. -/
theorem ScopeStep.exists_last {column : List Char} {after : ScopeState}
    {token : Token} {next : Option Token} {parts : List (List Char)}
    (step : ScopeStep column state token next parts after) :
    parts = [] ∨ ∃ restricted last,
      parts = filterText column restricted ++ [last] ∧
        (last = token.written ∨
          token.isMark = false ∧ last = phraseText token) := by
  have alone (last : List Char) : [last] = filterText column true ++ [last] :=
    rfl
  cases step with
  | inner =>
      refine Or.inr ⟨true, groupText token, alone _, ?_⟩
      cases isMark : token.isMark with
      | true => exact Or.inl (by simp [groupText, isMark])
      | false => exact Or.inr ⟨rfl, by simp [groupText, isMark]⟩
  | skip => exact Or.inl rfl
  | opening | closing | join | mark | names | operator =>
      exact Or.inr ⟨true, _, alone _, Or.inl rfl⟩
  | first | near => exact Or.inr ⟨_, _, rfl, Or.inl rfl⟩
  | phrase _ noMark => exact Or.inr ⟨_, _, rfl, Or.inr ⟨noMark, rfl⟩⟩

/-- A brace at the end of a query becomes a phrase. -/
theorem ScopeStep.phraseText_mem {column written : List Char}
    {after : ScopeState} {parts : List (List Char)}
    (step : ScopeStep column state (.braced written) none parts after) :
    phraseText (.braced written) ∈ parts := by
  cases step with
  | inner => simp [groupText, Token.isMark]
  | names _ _ colon => cases colon
  | phrase => simp

end ClusterLog.Query
