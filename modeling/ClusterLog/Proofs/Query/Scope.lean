import ClusterLog.Proofs.Query.Tokens

/-!
# The scope of written queries

The tokens of a written query become the parts of the same query in which
everything that no filter covers is restricted to one column.
-/

namespace ClusterLog.Query

open Text

/-- What is known where nothing is to be joined and no near phrases are open. -/
def ScopeState.ready (groups : List Bool) (filtered afterPhrase : Bool) :
    ScopeState where
  groups
  filtered
  afterPhrase

/-- The tokens that cannot make a filter or a group of the text before them. -/
def IsCalm (rest : List Token) : Prop :=
  rest.head? ≠ some (.mark ':') ∧ rest.head? ≠ some (.mark '(')

theorem isCalm_mark {c : Char} (rest : List Token)
    (noColon : c ≠ ':') (noOpening : c ≠ '(') :
    IsCalm (.mark c :: rest) := by
  simp [IsCalm, noColon, noOpening]

variable {column : List Char} {groups : List Bool} {rest : List Token}

theorem scopeParts_word {state : ScopeState} (noGroup : state.inGroup = false)
    (characters : List Char) :
    scopeParts column state (.word characters :: rest) =
      (scopeWord column state (.word characters) rest.head?).1 ++
        scopeParts column
          (scopeWord column state (.word characters) rest.head?).2 rest := by
  simp [scopeParts, scopeToken, noGroup]

/-! ## Phrases -/

/-- A text becomes a phrase, in front of anything that leaves it one. -/
theorem scopeParts_text (text : WrittenText) (isRequired : Bool)
    (calm : IsCalm rest) (filtered joining afterPhrase : Bool) :
    scopeParts column
        { groups, filtered, joining, afterPhrase }
        ((text.piece isRequired).token :: rest) =
      filterText column ((filtered || groups.any id) || joining) ++
        (text.piece isRequired).part ::
          scopeParts column (.ready groups false true) rest := by
  rcases calm with ⟨noColon, noOpening⟩
  cases text with
  | word chosen =>
      have noOperator : chosen.characters ∉ operatorWords := chosen.noOperator
      simp [WrittenText.piece, Piece.token, Piece.part, groupText,
        Token.isMark, scopeParts, scopeToken, scopeWord, scopePhrase, noColon,
        noOpening, Token.isOperator, noOperator, ScopeState.isCovered,
        ScopeState.ready]
  | quoted content noNull =>
      simp [WrittenText.piece, Piece.token, Piece.part, groupText,
        Token.isMark, scopeParts, scopeToken, scopeWord, scopePhrase, noColon,
        Token.isOperator, ScopeState.isCovered, ScopeState.ready]

theorem scopeParts_term (term : WrittenTerm) (isRequired : Bool)
    (calm : IsCalm rest) (filtered joining afterPhrase : Bool) :
    scopeParts column
        { groups, filtered, joining, afterPhrase }
        ((term.pieces isRequired).map (·.token) ++ rest) =
      filterText column ((filtered || groups.any id) || joining) ++
        ((term.pieces isRequired).map (·.part) ++
          scopeParts column (.ready groups false true) rest) := by
  rcases term with ⟨text, hasStar⟩
  cases hasStar with
  | false => exact scopeParts_text text isRequired calm filtered joining afterPhrase
  | true =>
      have star : IsCalm (.mark '*' :: rest) :=
        isCalm_mark rest (by decide) (by decide)
      exact scopeParts_text text isRequired star filtered joining afterPhrase

theorem isCalm_joined (others : List WrittenTerm) (calm : IsCalm rest) :
    IsCalm ((WrittenPhrase.joined others).map (·.token) ++ rest) := by
  cases others with
  | nil => exact calm
  | cons term others => exact isCalm_mark _ (by decide) (by decide)

/-- Texts that join a phrase are not restricted once more. -/
theorem scopeParts_joined (others : List WrittenTerm) (calm : IsCalm rest) :
    scopeParts column (.ready groups false true)
        ((WrittenPhrase.joined others).map (·.token) ++ rest) =
      (WrittenPhrase.joined others).map (·.part) ++
        scopeParts column (.ready groups false true) rest := by
  induction others with
  | nil => rfl
  | cons term others ih =>
      have joins :
          scopeParts column { groups, joining := true }
              ((term.pieces false).map (·.token) ++
                ((WrittenPhrase.joined others).map (·.token) ++ rest)) = _ :=
        scopeParts_term term false (isCalm_joined others calm) false true false
      simp only [Bool.or_true, filterText, if_true, List.nil_append, ih] at joins
      have front :
          (WrittenPhrase.joined (term :: others)) =
            .mark '+' :: (term.pieces false ++ WrittenPhrase.joined others) := rfl
      rw [front]
      simp only [List.map_cons, List.map_append, List.cons_append,
        List.append_assoc]
      exact congrArg (['+'] :: ·) joins

theorem scopeParts_phrase (phrase : WrittenPhrase)
    (calm : IsCalm rest) (filtered joining afterPhrase : Bool) :
    scopeParts column
        { groups, filtered, joining, afterPhrase }
        (phrase.pieces.map (·.token) ++ rest) =
      filterText column ((filtered || groups.any id) || joining) ++
        (phrase.pieces.map (·.part) ++
          scopeParts column (.ready groups false true) rest) := by
  rcases phrase with ⟨isRequired, first, others⟩
  rw [WrittenPhrase.pieces, List.map_append, List.map_append, List.append_assoc,
    List.append_assoc,
    scopeParts_term first isRequired (isCalm_joined others calm),
    scopeParts_joined others calm]

/-! ## Groups -/

/-- A piece that stays as it is inside of a group of near phrases. -/
def Piece.IsInner (piece : Piece) : Prop :=
  piece.part = groupText piece.token ∧ piece.token ≠ .mark ')'

theorem WrittenText.piece_isInner (text : WrittenText) (isRequired : Bool) :
    (text.piece isRequired).IsInner := by
  cases text <;> simp [piece, Piece.IsInner, Piece.part, Piece.token]

theorem WrittenTerm.isInner_of_mem {term : WrittenTerm} {isRequired : Bool}
    {piece : Piece} (member : piece ∈ term.pieces isRequired) :
    piece.IsInner := by
  rcases term with ⟨text, hasStar⟩
  rcases List.mem_cons.mp member with rfl | star
  · exact text.piece_isInner isRequired
  · cases hasStar with
    | false => cases star
    | true =>
        rcases List.mem_singleton.mp star with rfl
        exact ⟨rfl, by decide⟩

theorem WrittenPhrase.isInner_of_mem {phrase : WrittenPhrase} {piece : Piece}
    (member : piece ∈ phrase.pieces) :
    piece.IsInner := by
  rcases List.mem_append.mp member with first | joins
  · exact WrittenTerm.isInner_of_mem first
  · rcases List.mem_flatMap.mp joins with ⟨term, -, inside⟩
    rcases List.mem_cons.mp inside with rfl | other
    · exact ⟨rfl, by decide⟩
    · exact WrittenTerm.isInner_of_mem other

/-- The pieces of a group of near phrases up to its closing parenthesis. -/
def nearPieces (first : WrittenPhrase) (others : List WrittenPhrase)
    (distance : Option Distance) : List Piece :=
  first.pieces ++ others.flatMap (·.pieces) ++
    WrittenGroup.distancePieces distance

theorem isInner_of_mem_nearPieces {first : WrittenPhrase}
    {others : List WrittenPhrase} {distance : Option Distance} {piece : Piece}
    (member : piece ∈ nearPieces first others distance) :
    piece.IsInner := by
  rcases List.mem_append.mp member with phrases | digits
  · rcases List.mem_append.mp phrases with here | others
    · exact WrittenPhrase.isInner_of_mem here
    · rcases List.mem_flatMap.mp others with ⟨phrase, -, inside⟩
      exact WrittenPhrase.isInner_of_mem inside
  · cases distance with
    | none => cases digits
    | some distance =>
        simp only [WrittenGroup.distancePieces, List.mem_cons,
          List.not_mem_nil, or_false] at digits
        rcases digits with rfl | rfl
        · exact ⟨rfl, by decide⟩
        · exact ⟨rfl, by simp [Piece.token]⟩

theorem scopeParts_inner {pieces : List Piece}
    (inner : ∀ piece ∈ pieces, piece.IsInner) :
    scopeParts column { groups, inGroup := true }
        (pieces.map (·.token) ++ .mark ')' :: rest) =
      pieces.map (·.part) ++
        [')'] :: scopeParts column (.ready groups false false) rest := by
  induction pieces with
  | nil => rfl
  | cons piece pieces ih =>
      obtain ⟨same, stays⟩ := inner piece (by simp)
      have remains : (piece.token != .mark ')') = true := by simpa using stays
      have others : ∀ other ∈ pieces, other.IsInner :=
        fun other member => inner other (by simp [member])
      rw [List.map_cons, List.map_cons, same, List.cons_append, List.cons_append,
        ← ih others]
      simp [scopeParts, scopeToken, remains]

/-- A NEAR group is written as it is, and no filter applies behind it. -/
theorem scopeParts_near (first : WrittenPhrase) (others : List WrittenPhrase)
    (distance : Option Distance) (filtered afterPhrase : Bool) :
    scopeParts column (.ready groups filtered afterPhrase)
        ((WrittenGroup.near first others distance).pieces.map (·.token) ++
          rest) =
      filterText column (filtered || groups.any id) ++
        ((WrittenGroup.near first others distance).pieces.map (·.part) ++
          scopeParts column (.ready groups false false) rest) := by
  have begins :
      scopeWord column (.ready groups filtered afterPhrase)
          (.word "NEAR".toList) (some (.mark '(')) =
        (filterText column (filtered || groups.any id) ++ ["NEAR".toList],
          { groups, inGroup := true }) :=
    rfl
  have inner :
      scopeParts column { groups, inGroup := true }
          (.mark '(' :: ((nearPieces first others distance).map (·.token) ++
            .mark ')' :: rest)) =
        ['('] :: ((nearPieces first others distance).map (·.part) ++
          [')'] :: scopeParts column (.ready groups false false) rest) :=
    congrArg (['('] :: ·)
      (scopeParts_inner fun _ => isInner_of_mem_nearPieces)
  have whole :
      scopeParts column (.ready groups filtered afterPhrase)
          (.word "NEAR".toList :: .mark '(' ::
            ((nearPieces first others distance).map (·.token) ++
              .mark ')' :: rest)) =
        filterText column (filtered || groups.any id) ++
          "NEAR".toList :: ['('] ::
            ((nearPieces first others distance).map (·.part) ++
              [')'] :: scopeParts column (.ready groups false false) rest) := by
    rw [scopeParts_word rfl, List.head?_cons, begins, inner,
      List.append_assoc]
    rfl
  have pieces :
      (WrittenGroup.near first others distance).pieces =
        .word false "NEAR".toList :: .mark '(' ::
          (nearPieces first others distance ++ [.mark ')']) := rfl
  have name : (Piece.word false "NEAR".toList).part = "NEAR".toList :=
    Piece.part_word false (by decide)
  rw [pieces]
  simp only [List.map_cons, List.map_append, List.map_nil, List.cons_append,
    List.append_assoc, List.nil_append, Piece.token_mark, Piece.token_word,
    Piece.part_mark, name]
  exact whole

theorem scopeParts_group (group : WrittenGroup)
    (calm : IsCalm rest) (filtered afterPhrase : Bool) :
    ∃ afterGroup,
      scopeParts column (.ready groups filtered afterPhrase)
          (group.pieces.map (·.token) ++ rest) =
        filterText column (filtered || groups.any id) ++
          (group.pieces.map (·.part) ++
            scopeParts column (.ready groups false afterGroup) rest) := by
  cases group with
  | phrase isFirst only =>
      refine ⟨true, ?_⟩
      cases isFirst with
      | false =>
          have plain :
              scopeParts column
                  { groups, filtered, joining := false, afterPhrase }
                  (only.pieces.map (·.token) ++ rest) = _ :=
            scopeParts_phrase only calm filtered false afterPhrase
          simpa [WrittenGroup.pieces, ScopeState.ready] using plain
      | true =>
          have joins :
              scopeParts column { groups, joining := true }
                  (only.pieces.map (·.token) ++ rest) = _ :=
            scopeParts_phrase only calm false true false
          have begins :
              scopeParts column (.ready groups filtered afterPhrase)
                  (.mark '^' :: (only.pieces.map (·.token) ++ rest)) =
                filterText column (filtered || groups.any id) ++
                  ['^'] :: scopeParts column { groups, joining := true }
                    (only.pieces.map (·.token) ++ rest) := by
            simp [scopeParts, scopeToken, scopeMark, ScopeState.ready,
              ScopeState.isCovered]
          rw [joins, Bool.or_true] at begins
          exact begins
  | near first others distance =>
      exact ⟨false, scopeParts_near first others distance filtered afterPhrase⟩

/-! ## Filters -/

theorem Column.part_name (isRequired : Bool) (allowed : Column) :
    (Piece.word isRequired allowed.name.toList).part = allowed.name.toList := by
  apply Piece.part_word
  cases allowed <;> decide

/-- A filter waits for what it applies to. -/
theorem scopeParts_filter (filter : WrittenFilter)
    (filtered afterPhrase : Bool) :
    scopeParts column (.ready groups filtered afterPhrase)
        (filter.pieces.map (·.token) ++ rest) =
      filter.pieces.map (·.part) ++
        scopeParts column (.ready groups true false) rest := by
  cases filter with
  | one allowed =>
      have name := Column.part_name false allowed
      simp only [WrittenFilter.pieces, List.map_cons, List.map_nil, name]
      rfl
  | several isPadded first others => rfl

/-! ## Lists of groups -/

theorem isCalm_filter (filter : WrittenFilter) :
    IsCalm (filter.pieces.map (·.token) ++ rest) := by
  cases filter <;> simp [IsCalm, WrittenFilter.pieces, Piece.token]

theorem isCalm_phrase (phrase : WrittenPhrase) :
    IsCalm (phrase.pieces.map (·.token) ++ rest) := by
  rcases phrase with ⟨isRequired, ⟨text, hasStar⟩, others⟩
  cases text <;>
    simp [IsCalm, WrittenPhrase.pieces, WrittenTerm.pieces, WrittenText.piece,
      Piece.token]

theorem isCalm_group (group : WrittenGroup) :
    IsCalm (group.pieces.map (·.token) ++ rest) := by
  cases group with
  | phrase isFirst only =>
      cases isFirst with
      | false => exact isCalm_phrase only
      | true => exact isCalm_mark _ (by decide) (by decide)
  | near first others distance => simp [IsCalm, WrittenGroup.pieces]

theorem isCalm_item (item : WrittenItem) :
    IsCalm (item.pieces.map (·.token) ++ rest) := by
  rcases item with ⟨filter, group⟩
  rw [WrittenItem.pieces, List.map_append, List.append_assoc]
  cases filter with
  | none => exact isCalm_group group
  | some filter => exact isCalm_filter filter

/-- A group that nothing covers gets a filter of its own. -/
theorem scopeParts_item (plain : Column) (item : WrittenItem)
    (calm : IsCalm rest) (afterPhrase : Bool) :
    ∃ afterItem,
      scopeParts plain.name.toList (.ready groups false afterPhrase)
          (item.pieces.map (·.token) ++ rest) =
        (item.restricted plain (groups.any id)).pieces.map (·.part) ++
          scopeParts plain.name.toList (.ready groups false afterItem) rest := by
  rcases item with ⟨filter, group⟩
  cases filter with
  | some filter =>
      obtain ⟨afterItem, parts⟩ :
          ∃ afterItem,
            scopeParts plain.name.toList (.ready groups true false)
                (group.pieces.map (·.token) ++ rest) =
              group.pieces.map (·.part) ++
                scopeParts plain.name.toList
                  (.ready groups false afterItem) rest :=
        scopeParts_group group calm true false
      refine ⟨afterItem, ?_⟩
      simp only [WrittenItem.pieces, WrittenItem.restricted,
        WrittenFilter.optionalPieces, Option.isSome_some, Bool.or_true, if_true,
        List.map_append, List.append_assoc, scopeParts_filter, parts]
  | none =>
      rcases scopeParts_group group calm false afterPhrase with
        ⟨afterItem, parts⟩
      refine ⟨afterItem, parts.trans ?_⟩
      cases covered : groups.any id with
      | true => simp [WrittenItem.pieces, WrittenItem.restricted, filterText,
          WrittenFilter.optionalPieces]
      | false => simp [WrittenItem.pieces, WrittenItem.restricted, filterText,
          WrittenFilter.optionalPieces, WrittenFilter.pieces, Column.part_name]

theorem isCalm_items (items : List WrittenItem) (calm : IsCalm rest) :
    IsCalm ((items.flatMap (·.pieces)).map (·.token) ++ rest) := by
  cases items with
  | nil => exact calm
  | cons item items =>
      rw [List.flatMap_cons, List.map_append, List.append_assoc]
      exact isCalm_item item

theorem scopeParts_items (plain : Column) (items : List WrittenItem)
    (calm : IsCalm rest) (afterPhrase : Bool) :
    ∃ afterItems,
      scopeParts plain.name.toList (.ready groups false afterPhrase)
          ((items.flatMap (·.pieces)).map (·.token) ++ rest) =
        ((items.map (·.restricted plain (groups.any id))).flatMap
            (·.pieces)).map (·.part) ++
          scopeParts plain.name.toList
            (.ready groups false afterItems) rest := by
  induction items generalizing afterPhrase with
  | nil => exact ⟨afterPhrase, rfl⟩
  | cons item items ih =>
      obtain ⟨afterItem, parts⟩ :=
        scopeParts_item plain item (isCalm_items items calm) afterPhrase
      rcases ih afterItem with ⟨afterItems, others⟩
      refine ⟨afterItems, ?_⟩
      rw [List.flatMap_cons, List.map_append, List.append_assoc, parts, others]
      simp

/-! ## Queries -/

theorem head?_pieces_ne {strength : Nat} (query : WrittenQuery strength) :
    (query.pieces.map (·.token) ++ rest).head? ≠ some (.mark ':') := by
  induction query generalizing rest with
  | items first others =>
      rw [WrittenQuery.pieces, List.map_append, List.append_assoc]
      exact (isCalm_item first).1
  | parenthesised filter body ih =>
      cases filter with
      | none => simp [WrittenQuery.pieces, WrittenFilter.optionalPieces]
      | some filter =>
          rw [WrittenQuery.pieces, List.map_append, List.append_assoc]
          exact (isCalm_filter filter).1
  | combined operator strong left right ihLeft ihRight =>
      rw [WrittenQuery.pieces, List.map_append, List.append_assoc]
      exact ihLeft

theorem scopeParts_operator (operator : Operator)
    (noColon : rest.head? ≠ some (.mark ':')) (afterPhrase : Bool) :
    scopeParts column (.ready groups false afterPhrase)
        (.word operator.word :: rest) =
      operator.word :: scopeParts column (.ready groups false false) rest := by
  rw [scopeParts_word rfl]
  cases operator <;>
    simp [scopeWord, noColon, Token.isOperator, operatorWords, Operator.word,
      Token.written, ScopeState.ready]

theorem Operator.part_word (operator : Operator) :
    (Piece.word false operator.word).part = operator.word := by
  apply Piece.part_word
  cases operator <;> decide

/-- What the parts of a query become: the query with everything that no filter
covers restricted to a column. -/
theorem scopeParts_query (plain : Column)
    {strength : Nat} (query : WrittenQuery strength)
    (groups : List Bool) (afterPhrase : Bool) {rest : List Token}
    (calm : IsCalm rest) :
    ∃ afterQuery,
      scopeParts plain.name.toList (.ready groups false afterPhrase)
          (query.pieces.map (·.token) ++ rest) =
        (query.restricted plain (groups.any id)).pieces.map (·.part) ++
          scopeParts plain.name.toList
            (.ready groups false afterQuery) rest := by
  induction query generalizing groups afterPhrase rest with
  | items first others =>
      obtain ⟨afterFirst, parts⟩ :=
        scopeParts_item plain first (isCalm_items others calm) afterPhrase
      rcases scopeParts_items plain others calm afterFirst with
        ⟨afterOthers, otherParts⟩
      refine ⟨afterOthers, ?_⟩
      rw [WrittenQuery.pieces, List.map_append, List.append_assoc, parts,
        otherParts, WrittenQuery.restricted, WrittenQuery.pieces,
        List.map_append, List.append_assoc]
  | parenthesised filter body ih =>
      refine ⟨false, ?_⟩
      have inside : ∀ isFiltered before : Bool,
          scopeParts plain.name.toList (.ready groups isFiltered before)
              (.mark '(' :: (body.pieces.map (·.token) ++ .mark ')' :: rest)) =
            ['('] ::
              ((body.restricted plain
                  (groups.any id || isFiltered)).pieces.map (·.part) ++
                [')'] :: scopeParts plain.name.toList
                  (.ready groups false false) rest) := by
        intro isFiltered before
        have closing : IsCalm (.mark ')' :: rest) :=
          isCalm_mark rest (by decide) (by decide)
        rcases ih ((isFiltered || groups.any id) :: groups) false closing with
          ⟨afterBody, parts⟩
        have covered :
            ((isFiltered || groups.any id) :: groups).any id =
              (groups.any id || isFiltered) := by
          cases isFiltered <;> simp
        rw [covered] at parts
        exact congrArg (['('] :: ·) parts
      cases filter with
      | none =>
          simpa [WrittenQuery.pieces, WrittenQuery.restricted,
            WrittenFilter.optionalPieces] using inside false afterPhrase
      | some filter =>
          simp only [WrittenQuery.pieces, WrittenQuery.restricted,
            WrittenFilter.optionalPieces, List.map_append, List.map_cons,
            List.map_nil, List.append_assoc, List.cons_append,
            List.nil_append, scopeParts_filter, Option.isSome_some,
            Piece.token_mark, Piece.part_mark, inside]
  | combined operator strong left right ihLeft ihRight =>
      rcases ihRight groups false calm with ⟨afterRight, rightParts⟩
      have opening : IsCalm (.word operator.word ::
          (right.pieces.map (·.token) ++ rest)) := by
        simp [IsCalm]
      rcases ihLeft groups afterPhrase opening with ⟨afterLeft, leftParts⟩
      refine ⟨afterRight, ?_⟩
      simp only [WrittenQuery.pieces, WrittenQuery.restricted, List.map_append,
        List.map_cons, List.append_assoc, List.cons_append, Piece.token_word,
        Operator.part_word]
      rw [leftParts, scopeParts_operator operator (head?_pieces_ne right),
        rightParts]

/-- The expression that a written query becomes. -/
theorem scopeChars_text (plain : Column)
    {strength : Nat} (query : WrittenQuery strength) :
    scopeChars plain.name.toList query.text =
      [' '].intercalate
        ((query.restricted plain false).pieces.map (·.part)) := by
  have ends : IsCalm [] := by simp [IsCalm]
  rcases scopeParts_query plain query [] false ends with ⟨_, parts⟩
  rw [List.append_nil] at parts
  rw [scopeChars, tokens_text]
  exact congrArg [' '].intercalate (parts.trans (List.append_nil _))

end ClusterLog.Query
