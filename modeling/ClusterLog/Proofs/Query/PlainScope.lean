import ClusterLog.Proofs.Query.Shelter
import ClusterLog.Proofs.Query.Spelling
import ClusterLog.Proofs.Query.Steps
import ClusterLog.Query.Request

/-!
# The scope of queries without colons

A query without colons has no filters of its own.  Whatever else it holds, its
scoped expression is sheltered by the column that plain terms are restricted
to, provided that the quotes in its braces come in pairs: a braced text goes out
in quotes, and a single quote inside would end it.
-/

namespace ClusterLog.Query

open Text

/-! ## Steps -/

/-- No filter covers what comes next. -/
structure ScopeState.IsPlain (state : ScopeState) : Prop where
  unfiltered : state.filtered = false
  uncovered : ∀ isCovered ∈ state.groups, isCovered = false

theorem ScopeState.IsPlain.isCovered {state : ScopeState}
    (plain : state.IsPlain) :
    state.isCovered = false := by
  have none : state.groups.any id = false := by
    rw [List.any_eq_false]
    intro isCovered member
    simp [plain.uncovered isCovered member]
  rw [ScopeState.isCovered, plain.unfiltered, none]
  rfl

/-- What a token becomes where no filter covers it, and what is known behind
it. -/
inductive PlainStep (name : List Char) (state : ScopeState) :
    Token → Option Token → List (List Char) → ScopeState → Prop where
  /-- A token of near phrases. -/
  | inner {token : Token} {next : Option Token}
    (grouped : state.inGroup = true) :
    PlainStep name state token next [groupText token]
      { state with inGroup := token != .mark ')' }
  /-- A mark that stays where it is. -/
  | mark {c : Char} {next : Option Token} {after : ScopeState}
    (ungrouped : state.inGroup = false)
    (isMark : c ∈ markChars) (noPlus : c ≠ '+') (noCaret : c ≠ '^')
    (plain : after.IsPlain)
    (joining : after.joining = state.joining)
    (inGroup : after.inGroup = false) :
    PlainStep name state (.mark c) next [[c]] after
  | join {next : Option Token}
    (ungrouped : state.inGroup = false) :
    PlainStep name state (.mark '+') next [['+']]
      { state with joining := true, afterPhrase := false }
  /-- A plus sign that joins nothing. -/
  | skip {next : Option Token}
    (ungrouped : state.inGroup = false) (noPhrase : state.afterPhrase = false) :
    PlainStep name state (.mark '+') next [] state
  | first {next : Option Token}
    (ungrouped : state.inGroup = false) :
    PlainStep name state (.mark '^') next
      (filterText name state.joining ++ [['^']])
      { state with filtered := false, joining := true, afterPhrase := false }
  | operator {characters : List Char} {next : Option Token}
    (ungrouped : state.inGroup = false)
    (combines : characters ∈ operatorWords) :
    PlainStep name state (.word characters) next [characters]
      { state with afterPhrase := false }
  /-- The name of near phrases in front of their parenthesis. -/
  | near
    (ungrouped : state.inGroup = false) :
    PlainStep name state (.word nearName) (some (.mark '('))
      (filterText name false ++ [nearName])
      { state with filtered := false, afterPhrase := false, inGroup := true }
  | phrase {token : Token} {next : Option Token}
    (ungrouped : state.inGroup = false)
    (noMark : token.isMark = false) (noOperator : token.isOperator = false)
    (noNear : token = .word nearName → next ≠ some (.mark '(')) :
    PlainStep name state token next
      (filterText name state.joining ++ [phraseText token])
      { state with filtered := false, joining := false, afterPhrase := true }

/-- What a step is where no filter covers anything. -/
theorem ScopeStep.plain {name : List Char} {state after : ScopeState}
    {token : Token} {next : Option Token} {parts : List (List Char)}
    (step : ScopeStep name state token next parts after)
    (plain : state.IsPlain) (whole : ∀ c, token = .mark c → c ∈ markChars)
    (noColon : next ≠ some (.mark ':')) :
    PlainStep name state token next parts after := by
  have restricted : (state.isCovered || state.joining) = state.joining := by
    simp [plain.isCovered]
  cases step with
  | inner grouped => exact .inner grouped
  | opening ungrouped =>
      refine .mark ungrouped (by decide) (by decide) (by decide) ⟨rfl, ?_⟩ rfl
        ungrouped
      intro isCovered member
      rcases List.mem_cons.mp member with rfl | inside
      · exact plain.isCovered
      · exact plain.uncovered isCovered inside
  | closing ungrouped =>
      refine .mark ungrouped (by decide) (by decide) (by decide) ⟨plain.1, ?_⟩
        rfl ungrouped
      intro isCovered member
      exact plain.uncovered isCovered (List.mem_of_mem_tail member)
  | join ungrouped => exact .join ungrouped
  | skip ungrouped noPhrase => exact .skip ungrouped noPhrase
  | first ungrouped =>
      rw [restricted]
      exact .first ungrouped
  | @mark c _ ungrouped other =>
      have differs : ∀ mark ∈ "()+^".toList, c ≠ mark := by
        rintro mark member rfl
        exact other member
      exact .mark ungrouped (whole c rfl) (differs '+' (by decide))
        (differs '^' (by decide)) plain rfl ungrouped
  | names _ _ colon => exact absurd colon noColon
  | operator ungrouped _ combines => exact .operator ungrouped combines
  | near ungrouped opens =>
      subst opens
      rw [plain.isCovered]
      exact .near ungrouped
  | phrase ungrouped noMark noOperator _ noNear =>
      rw [restricted]
      exact .phrase ungrouped noMark noOperator noNear

theorem PlainStep.isPlain {name : List Char} {state after : ScopeState}
    {token : Token} {next : Option Token} {parts : List (List Char)}
    (step : PlainStep name state token next parts after)
    (plain : state.IsPlain) :
    after.IsPlain := by
  cases step with
  | mark _ _ _ _ plainAfter => exact plainAfter
  | inner | join | skip | operator => exact ⟨plain.1, plain.2⟩
  | first | near | phrase => exact ⟨rfl, plain.2⟩

/-! ## Legible parts -/

theorem inQuotes_of_noQuote {characters : List Char}
    (noQuote : ∀ c ∈ characters, c ≠ '"') :
    '"' :: characters ++ ['"'] = inQuotes characters := by
  rw [inQuotes, doubled_of_noQuote noQuote]

theorem phraseText_word (characters : List Char) :
    phraseText (.word characters) =
      if characters.all isWord then characters
      else '"' :: characters ++ ['"'] :=
  rfl

theorem isLegible_phraseText {token : Token} (whole : token.IsWhole)
    (noMark : token.isMark = false) :
    IsLegible (phraseText token) := by
  cases token with
  | mark c => cases noMark
  | quoted written =>
      rcases whole with ⟨content, rfl⟩
      exact .quoted content
  | braced written =>
      rcases whole with ⟨content, rfl⟩
      exact .quoted content
  | word characters =>
      rcases whole with ⟨nonempty, inWord⟩
      rw [phraseText_word]
      split
      · rename_i plain
        exact .word nonempty plain
      · have noQuote : ∀ c ∈ characters, c ≠ '"' :=
          fun c member => (isWordChar_iff.mp (inWord c member)).2.2.1
        rw [inQuotes_of_noQuote noQuote]
        exact .quoted characters

theorem isLegible_groupText {token : Token} (whole : token.IsWhole) :
    IsLegible (groupText token) := by
  unfold groupText
  split
  · rename_i isMark
    cases token with
    | mark c => exact .mark whole
    | quoted written | braced written | word characters => cases isMark
  · rename_i noMark
    exact isLegible_phraseText whole (by simpa using noMark)

theorem isLegible_name (column : Column) :
    IsLegible column.name.toList :=
  .word (by cases column <;> decide) (by cases column <;> decide)

theorem isLegible_filterText {column : Column} {restricted : Bool}
    {part : List Char}
    (member : part ∈ filterText column.name.toList restricted) :
    IsLegible part := by
  cases restricted with
  | true => cases member
  | false =>
      simp only [filterText, Bool.false_eq_true, if_false, List.mem_cons,
        List.not_mem_nil, or_false] at member
      rcases member with rfl | rfl
      · exact isLegible_name column
      · exact .mark (by decide)

section Steps

variable {column : Column} {state after : ScopeState} {token : Token}
variable {next : Option Token} {parts : List (List Char)}

theorem PlainStep.isLegible
    (step : PlainStep column.name.toList state token next parts after)
    (whole : token.IsWhole) :
    ∀ part ∈ parts, IsLegible part := by
  have behindFilter {restricted : Bool} {last : List Char}
      (legible : IsLegible last) :
      ∀ part ∈ filterText column.name.toList restricted ++ [last],
        IsLegible part := by
    intro part member
    rcases List.mem_append.mp member with front | back
    · exact isLegible_filterText front
    · exact List.mem_singleton.mp back ▸ legible
  cases step with
  | inner => simpa using isLegible_groupText whole
  | mark _ isMark => simpa using IsLegible.mark isMark
  | join => simpa using IsLegible.mark whole
  | skip => simp
  | first => exact behindFilter (.mark (by decide))
  | operator _ combines =>
      have all : ∀ characters ∈ operatorWords,
          characters ≠ [] ∧ characters.all isWord = true := by decide
      rcases all _ combines with ⟨nonempty, plain⟩
      simpa using IsLegible.word nonempty plain
  | near => exact behindFilter (.word (by decide) (by decide))
  | phrase _ noMark => exact behindFilter (isLegible_phraseText whole noMark)

/-- An unclosed token is the last part of what it becomes. -/
theorem PlainStep.exists_unclosed
    (step : PlainStep column.name.toList state token next parts after)
    (unclosed : token.IsUnclosed) :
    ∃ front last,
      parts = front ++ [last] ∧
      (∀ part ∈ front, IsLegible part) ∧ IsUnclosed last := by
  cases token with
  | mark c | braced written | word characters => cases unclosed
  | quoted written =>
      cases step with
      | inner => exact ⟨[], written, rfl, by simp, unclosed⟩
      | phrase =>
          exact ⟨_, written, rfl, fun _ => isLegible_filterText, unclosed⟩

end Steps

theorem plainStep_head (name : List Char) {state : ScopeState} {token : Token}
    {others : List Token} (whole : AreWhole (token :: others))
    (noColon : .mark ':' ∉ token :: others) (plain : state.IsPlain) :
    PlainStep name state token others.head?
      (scopeToken name state token others.head?).1
      (scopeToken name state token others.head?).2 := by
  refine (scopeStep name state token others.head?).plain plain ?_ ?_
  · rintro c rfl
    rcases whole.1 with isMark | ⟨unclosed, -⟩
    · exact isMark
    · exact unclosed.elim
  · intro first
    exact noColon (List.mem_cons_of_mem _ (List.mem_of_head? first))

/-- The parts of a scoped query spell lexemes. -/
theorem areLegible_scopeParts (column : Column) {tokens : List Token}
    (whole : AreWhole tokens) (noColon : .mark ':' ∉ tokens)
    {state : ScopeState} (plain : state.IsPlain) :
    AreLegible (scopeParts column.name.toList state tokens) := by
  induction tokens generalizing state with
  | nil => trivial
  | cons token others ih =>
      have step := plainStep_head column.name.toList whole noColon plain
      have legibleOthers := ih whole.2
        (fun member => noColon (List.mem_cons_of_mem _ member))
        (step.isPlain plain)
      rw [scopeParts]
      rcases whole.1 with closed | ⟨unclosed, rfl⟩
      · exact .append (step.isLegible closed) legibleOthers
      · rcases step.exists_unclosed unclosed with
          ⟨front, last, split, legible, unclosedLast⟩
        simp only [List.head?_nil] at split
        simp only [List.head?_nil, scopeParts, List.append_nil, split]
        exact .append legible ⟨Or.inr ⟨unclosedLast, rfl⟩, trivial⟩

/-! ## Sheltered lexemes -/

theorem spelled_name (column : Column) :
    spelled column.name.toList = .text column.name.toList := by
  cases column <;> decide

theorem spelled_filterText (column : Column) :
    (filterText column.name.toList false).map spelled =
      [.text column.name.toList, .mark ':'] := by
  rw [← spelled_name column]
  rfl

theorem spelled_phraseText {token : Token}
    (sound : token.IsWhole ∨ token.IsUnclosed)
    (noMark : token.isMark = false) (noOperator : token.isOperator = false) :
    spelled (phraseText token) = .text (phraseText token) := by
  cases token with
  | mark c => cases noMark
  | quoted written =>
      rcases sound with ⟨content, rfl⟩ | ⟨content, rfl⟩ <;> rfl
  | braced written => rfl
  | word characters =>
      rw [phraseText_word]
      split
      · rename_i plain
        rw [spelled_word plain]
        exact wordLexeme_of_noOperator
          (by simpa [Token.isOperator] using noOperator)
      · rfl

/-- Only the name of near phrases is written like it. -/
theorem phraseText_eq_nearName {token : Token}
    (sound : token.IsWhole ∨ token.IsUnclosed)
    (noMark : token.isMark = false) (named : phraseText token = nearName) :
    token = .word nearName := by
  cases token with
  | mark c => cases noMark
  | quoted written =>
      rcases sound with ⟨content, rfl⟩ | ⟨content, rfl⟩ <;>
        simp [phraseText, nearName, inQuotes] at named
  | braced written => simp [phraseText, nearName] at named
  | word characters =>
      rw [phraseText_word] at named
      split at named
      · rw [named]
      · simp [nearName] at named

/-- Near phrases go on behind every other part than a closing parenthesis. -/
theorem isSheltered_near_cons {column : Column} {lexeme : Lexeme} {rest : Rest}
    (noClosing : lexeme ≠ .mark ')') (near : IsSheltered column .near rest) :
    IsSheltered column .near (lexeme :: rest) := by
  cases lexeme with
  | text written => exact near
  | operator combining => exact near
  | mark c =>
      have other : c ≠ ')' := fun same => noClosing (congrArg _ same)
      simpa [IsSheltered, other] using near

theorem exists_operator_of_mem {characters : List Char}
    (combines : characters ∈ operatorWords) :
    ∃ operator, spelled characters = .operator operator := by
  have all : ∀ characters ∈ operatorWords,
      ∃ operator ∈ [Operator.or, .and, .not],
        spelled characters = .operator operator := by decide
  rcases all _ combines with ⟨operator, -, same⟩
  exact ⟨operator, same⟩

/-- A phrase never spells a mark. -/
theorem spelled_phraseText_ne_mark {token : Token}
    (sound : token.IsWhole ∨ token.IsUnclosed)
    (noMark : token.isMark = false) (c : Char) :
    spelled (phraseText token) ≠ .mark c := by
  cases combines : token.isOperator with
  | false =>
      rw [spelled_phraseText sound noMark combines]
      exact Lexeme.noConfusion
  | true =>
      cases token with
      | word characters =>
          have member : characters ∈ operatorWords := by
            simpa [Token.isOperator] using combines
          have plain : ∀ characters ∈ operatorWords,
              characters.all isWord = true := by decide
          rcases exists_operator_of_mem member with ⟨operator, same⟩
          rw [phraseText_word, if_pos (plain _ member), same]
          exact Lexeme.noConfusion
      | mark c | quoted written | braced written => cases combines

/-- Only a closing parenthesis ends near phrases. -/
theorem spelled_groupText {token : Token}
    (sound : token.IsWhole ∨ token.IsUnclosed) :
    spelled (groupText token) = .mark ')' ↔ token = .mark ')' := by
  cases token with
  | mark c =>
      have isMark : c ∈ markChars := by
        rcases sound with isMark | unclosed
        · exact isMark
        · exact unclosed.elim
      have kept : groupText (.mark c) = [c] := rfl
      simp [kept, spelled_mark isMark]
  | quoted written | braced written | word characters =>
      have differs := spelled_phraseText_ne_mark sound rfl ')'
      simpa [groupText, Token.isMark] using differs

/-- What stands before the next lexeme, by what a state knows. -/
def placeOf : Bool → Bool → Place
  | true, _ => .near
  | false, true => .joined
  | false, false => .free

section Sheltered

variable {column : Column} {state : ScopeState} {tokens : List Token}

/-- Every token but a plus sign that joins nothing becomes something. -/
theorem spelled_head_of_step {token : Token} {next : Option Token}
    {parts : List (List Char)} {after : ScopeState} (column : Column)
    (step : PlainStep column.name.toList state token next parts after)
    (ungrouped : state.inGroup = false) (unjoined : state.joining = false)
    (afterPhrase : state.afterPhrase = true) :
    ∃ lexeme, (parts.map spelled).head? = some lexeme ∧
      (lexeme = .mark '(' → token = .mark '(') := by
  have filter (last : List Char) :
      ((filterText column.name.toList false ++ [last]).map spelled).head? =
        some (.text column.name.toList) := by
    rw [List.map_append, spelled_filterText]
    rfl
  cases step with
  | inner grouped => simp [ungrouped] at grouped
  | @mark c _ _ _ isMark =>
      refine ⟨_, rfl, ?_⟩
      intro same
      rw [spelled_mark isMark] at same
      cases same
      rfl
  | join => exact ⟨_, rfl, by decide⟩
  | skip _ noPhrase => simp [afterPhrase] at noPhrase
  | first | phrase =>
      rw [unjoined]
      exact ⟨_, filter _, nofun⟩
  | operator _ combines =>
      rcases exists_operator_of_mem combines with ⟨operator, same⟩
      refine ⟨_, rfl, ?_⟩
      rw [same]
      exact nofun
  | near => exact ⟨_, filter _, nofun⟩

/-- Where a filter would stand before the next phrase, a parenthesis comes from
a parenthesis. -/
theorem head?_of_opening (whole : AreWhole tokens)
    (noColon : .mark ':' ∉ tokens) (plain : state.IsPlain)
    (ungrouped : state.inGroup = false) (unjoined : state.joining = false)
    (afterPhrase : state.afterPhrase = true)
    (opening :
      ((scopeParts column.name.toList state tokens).map spelled).head? =
        some (.mark '(')) :
    tokens.head? = some (.mark '(') := by
  cases tokens with
  | nil => cases opening
  | cons token others =>
      have step := plainStep_head column.name.toList whole noColon plain
      rcases spelled_head_of_step column step ungrouped unjoined afterPhrase with
        ⟨lexeme, head, same⟩
      rw [scopeParts, List.map_append, List.head?_append, head] at opening
      rw [same (Option.some.inj opening)]
      rfl

/-- Inside of near phrases a parenthesis stays where it is. -/
theorem head?_of_grouped (grouped : state.inGroup = true)
    (opening : tokens.head? = some (.mark '(')) :
    ((scopeParts column.name.toList state tokens).map spelled).head? =
      some (.mark '(') := by
  rcases List.head?_eq_some_iff.mp opening with ⟨others, rfl⟩
  rw [scopeParts, scopeToken, if_pos grouped]
  rfl

omit state tokens in
theorem isSheltered_filterText {lexemes : List Lexeme}
    (filtered : IsSheltered column .filtered lexemes) :
    IsSheltered column .free
      ((filterText column.name.toList false).map spelled ++ lexemes) := by
  rw [spelled_filterText]
  exact ⟨rfl, filtered⟩

/-- A mark in front of sheltered lexemes. -/
theorem isSheltered_mark {c : Char} {joining : Bool} {lexemes : List Lexeme}
    (isMark : c ∈ markChars) (noPlus : c ≠ '+') (noCaret : c ≠ '^')
    (sheltered : IsSheltered column (placeOf false joining) lexemes) :
    IsSheltered column (placeOf false joining) (.mark c :: lexemes) := by
  cases joining with
  | true => trivial
  | false =>
      have others : ∀ c ∈ markChars, c ≠ '\x7b' ∧ c ≠ '-' := by decide
      rcases others c isMark with ⟨noBrace, noMinus⟩
      rw [placeOf, IsSheltered]
      · exact ⟨noCaret, noBrace, noMinus, fun _ => sheltered⟩
      · exact noPlus

/-- A part in front of sheltered lexemes. -/
theorem PlainStep.isSheltered {after : ScopeState} {token : Token}
    {next : Option Token} {parts : List (List Char)} {lexemes : List Lexeme}
    (step : PlainStep column.name.toList state token next parts after)
    (sound : token.IsWhole ∨ token.IsUnclosed)
    (unjoined : state.inGroup = true → state.joining = false)
    (sheltered : (after.inGroup = true → after.joining = false) →
      IsSheltered column (placeOf after.inGroup after.joining) lexemes)
    (grouped : after.inGroup = true → next = some (.mark '(') →
      lexemes.head? = some (.mark '('))
    (opening : after.inGroup = false → after.joining = false →
      after.afterPhrase = true → lexemes.head? = some (.mark '(') →
      next = some (.mark '(')) :
    IsSheltered column (placeOf state.inGroup state.joining)
      (parts.map spelled ++ lexemes) := by
  cases step with
  | inner inGroup =>
      have noJoining := unjoined inGroup
      rw [inGroup]
      by_cases closing : token = .mark ')'
      · subst closing
        have free := sheltered nofun
        dsimp only at free
        rw [noJoining] at free
        exact free
      · have noClosing := mt (spelled_groupText sound).mp closing
        have near := sheltered fun _ => noJoining
        have goesOn : (token != .mark ')') = true := by simpa using closing
        dsimp only at near
        rw [goesOn] at near
        exact isSheltered_near_cons noClosing near
  | skip => exact sheltered unjoined
  | mark ungrouped isMark noPlus noCaret _ joining inGroup =>
      have others := sheltered (by simp [inGroup])
      rw [inGroup, joining] at others
      rw [ungrouped, List.map_singleton, spelled_mark isMark]
      exact isSheltered_mark isMark noPlus noCaret others
  | join ungrouped =>
      have joined := sheltered (by simp [ungrouped])
      dsimp only at joined
      rw [ungrouped] at joined ⊢
      cases state.joining with
      | true => trivial
      | false => exact joined
  | first ungrouped =>
      have joined := sheltered (by simp [ungrouped])
      dsimp only at joined
      rw [ungrouped] at joined ⊢
      cases state.joining with
      | true => trivial
      | false =>
          rw [List.map_append, List.append_assoc]
          exact isSheltered_filterText joined
  | operator ungrouped combines =>
      have others := sheltered (by simp [ungrouped])
      dsimp only at others
      rcases exists_operator_of_mem combines with ⟨operator, same⟩
      rw [ungrouped] at others ⊢
      rw [List.map_singleton, same]
      cases joining : state.joining with
      | true => trivial
      | false =>
          rw [joining] at others
          exact others
  | near ungrouped =>
      rw [ungrouped, List.map_append, List.append_assoc]
      cases joining : state.joining with
      | true =>
          -- The name of the column goes on with the phrase, and a reader stops
          -- at the colon.
          rw [spelled_filterText]
          exact ⟨by decide, by decide, by decide,
            fun closes => absurd closes (by decide)⟩
      | false =>
          refine isSheltered_filterText ?_
          have name : [nearName].map spelled = [.text nearName] := rfl
          rw [name, List.singleton_append, IsSheltered,
            if_pos (grouped rfl rfl)]
          exact fun _ => sheltered fun _ => joining
  | phrase ungrouped noMark noOperator noNear =>
      have text := spelled_phraseText sound noMark noOperator
      have free := sheltered (by simp [ungrouped])
      dsimp only at free
      rw [ungrouped] at free ⊢
      rw [List.map_append, List.append_assoc, List.map_singleton, text]
      cases joining : state.joining with
      | true => exact free
      | false =>
          refine isSheltered_filterText ?_
          rw [List.singleton_append, IsSheltered]
          split
          · rename_i opens
            intro named
            exact absurd (opening ungrouped rfl rfl opens)
              (noNear (phraseText_eq_nearName sound noMark named))
          · exact free

/-- The lexemes of a scoped query without filters of its own are sheltered. -/
theorem isSheltered_scopeParts (whole : AreWhole tokens)
    (noColon : .mark ':' ∉ tokens) (plain : state.IsPlain)
    (unjoined : state.inGroup = true → state.joining = false) :
    IsSheltered column (placeOf state.inGroup state.joining)
      ((scopeParts column.name.toList state tokens).map spelled) := by
  induction tokens generalizing state with
  | nil => cases state.inGroup <;> cases state.joining <;> trivial
  | cons token others ih =>
      have step := plainStep_head column.name.toList whole noColon plain
      have noColonOthers : .mark ':' ∉ others :=
        fun member => noColon (List.mem_cons_of_mem _ member)
      have plainAfter := step.isPlain plain
      have sound : token.IsWhole ∨ token.IsUnclosed := whole.1.imp_right And.left
      rw [scopeParts, List.map_append]
      refine step.isSheltered sound unjoined
        (ih whole.2 noColonOthers plainAfter) ?_
        (head?_of_opening whole.2 noColonOthers plainAfter)
      exact head?_of_grouped

end Sheltered

/-! ## Requests -/

/-- Every group of a request is restricted to a column. -/
def Request.LooksAt (column : Column) : Request → Prop
  | directive => True
  | query expression => expression.LooksAt column

/-- Documents with the same text in that column answer the request alike. -/
theorem Request.finds_congr {column : Column} {request : Request}
    (looks : request.LooksAt column) {document other : Document}
    (same : document.text column = other.text column) :
    request.finds document = request.finds other := by
  cases request with
  | directive => rfl
  | query expression =>
      have sameTerms : document.terms column = other.terms column := by
        rw [Document.terms, Document.terms, same]
      exact Expression.holdsFor_congr looks sameTerms _

/--
A query without colons looks at the column of plain terms only, unless a single
quote stands in its braces.
-/
theorem looksAt_of_plain {limits : Limits} {column : Column} {text : List Char}
    {request : Request} (noColon : ':' ∉ text) (paired : HasPairedBraces text)
    (asked :
      Request.ofExpression limits (scopeChars column.name.toList text) =
        .ok request) :
    request.LooksAt column := by
  have whole := areWhole_tokens paired
  have noMark := noColon_tokens noColon
  have plain : ScopeState.IsPlain {} := ⟨rfl, nofun⟩
  have legible := areLegible_scopeParts column whole noMark plain
  unfold Request.ofExpression at asked
  split at asked
  · simp only [Request.ofDirective] at asked
    split at asked
    · cases asked
      trivial
    · cases asked
  · cases reads : readAll limits (scopeChars column.name.toList text) with
    | error fault => simp [reads, Except.map] at asked
    | ok expression =>
        simp only [reads, Except.map, Except.ok.injEq] at asked
        subst asked
        refine looksAt_of_readAll ?_ reads
        intro complete
        rw [scopeChars, lexemes_legible legible complete]
        exact isSheltered_scopeParts whole noMark plain nofun

end ClusterLog.Query
