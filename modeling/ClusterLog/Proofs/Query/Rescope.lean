import ClusterLog.Proofs.Query.PlainScope
import ClusterLog.Proofs.Query.Recut
import Mathlib.Data.List.Forall2

/-!
# Queries that are scoped again

Scoping a scoped query restricts nothing once more: the filters that were
written in front of phrases are read as filters, and quoted phrases stay as they
are.  The second run covers at least what the first one covered, so it writes no
filter; it covers more where a plus sign between an operator and a colon was
left out, because the operator then names columns.

The second run drops a sign only where a brace that is never closed ends in one:
the phrase that the brace becomes has a quote behind the sign.
-/

namespace ClusterLog.Query

open Text

/-! ## Phrases that are read again -/

/-- No brace of a query holds a quote. -/
def HasPlainBraces (text : List Char) : Prop :=
  ∀ written, .braced written ∈ tokens text → '"' ∉ written

/-- What the phrase of a token is read as. -/
structure IsPhraseOf (token again : Token) : Prop where
  read : IsReadAs (phraseText token) again
  kept : phraseText again = again.written
  same : again = token ∨ ∃ written, again = .quoted written
  closed : token.IsClosed → again.IsClosed

/-- A token that is read as itself, and its phrase as a phrase. -/
structure Token.IsStable (token : Token) : Prop where
  kept : IsReadAs token.written token
  phrase : token.isMark = false → ∃ again, IsPhraseOf token again

theorem isPhraseOf_inQuotes {token : Token} {content : List Char}
    (written : phraseText token = inQuotes content) :
    IsPhraseOf token (.quoted (inQuotes (dropSigns false content))) := by
  rcases isReadAs_inQuotes content with ⟨read, closed⟩
  exact ⟨written ▸ read, rfl, Or.inr ⟨_, rfl⟩, fun _ => closed⟩

theorem HasPlainBraces.paired {text : List Char}
    (plain : HasPlainBraces text) :
    HasPairedBraces text := by
  intro written member
  refine ⟨written, (doubled_of_noQuote ?_).symm⟩
  rintro c inside rfl
  exact plain written member inside

theorem HasPlainBraces.inWord {text characters : List Char}
    (plain : HasPlainBraces text) (member : .word characters ∈ tokens text) :
    ∀ c ∈ characters, isWordChar c = true := by
  rcases (areWhole_tokens plain.paired).of_mem member with whole | unclosed
  · exact whole.2
  · exact unclosed.elim

/-- The tokens of a query are read again as themselves. -/
theorem isStable_of_mem {text : List Char} (plain : HasPlainBraces text)
    {token : Token} (member : token ∈ tokens text) :
    token.IsStable := by
  have cut := (areCutFrom_tokens text).isCutFrom member
  have kept := isReadAs_of_isCutFrom cut
  refine ⟨kept, fun noMark => ?_⟩
  cases token with
  | mark c => cases noMark
  | quoted written => exact ⟨_, kept, rfl, Or.inl rfl, id⟩
  | braced written =>
      refine ⟨_, isPhraseOf_inQuotes (inQuotes_of_noQuote ?_)⟩
      rintro c inside rfl
      exact plain written member inside
  | word characters =>
      by_cases isPlain : characters.all isWord = true
      · have same : phraseText (.word characters) = characters := by
          rw [phraseText_word, if_pos isPlain]
        exact ⟨_, same.symm ▸ kept, same, Or.inl rfl, id⟩
      · have noQuote : ∀ c ∈ characters, c ≠ '"' := by
          intro c inside
          exact (isWordChar_iff.mp (plain.inWord member c inside)).2.2.1
        have quoted : phraseText (.word characters) = inQuotes characters := by
          rw [phraseText_word, if_neg isPlain, inQuotes_of_noQuote noQuote]
        exact ⟨_, isPhraseOf_inQuotes quoted⟩

theorem IsPhraseOf.isMark_eq {token again : Token}
    (phrase : IsPhraseOf token again) (noMark : token.isMark = false) :
    again.isMark = false := by
  rcases phrase.same with rfl | ⟨written, rfl⟩
  · exact noMark
  · rfl

theorem IsPhraseOf.isOperator_eq {token again : Token}
    (phrase : IsPhraseOf token again) (noOperator : token.isOperator = false) :
    again.isOperator = false := by
  rcases phrase.same with rfl | ⟨written, rfl⟩
  · exact noOperator
  · rfl

/-- Inside of near phrases every token is read again as one that stays as it
is. -/
theorem Token.IsStable.exists_inner {token : Token} (stable : token.IsStable) :
    ∃ again, IsReadAs (groupText token) again ∧
      groupText again = again.written ∧
      (again != .mark ')') = (token != .mark ')') := by
  cases isMark : token.isMark with
  | true =>
      have same : groupText token = token.written := by simp [groupText, isMark]
      exact ⟨token, same.symm ▸ stable.kept, same, rfl⟩
  | false =>
      rcases stable.phrase isMark with ⟨again, phrase⟩
      have noMark := phrase.isMark_eq isMark
      have differs {text : Token} (noMark : text.isMark = false) :
          (text != .mark ')') = true := by
        cases text with
        | mark c => cases noMark
        | quoted written | braced written | word written => rfl
      refine ⟨again, ?_, ?_, ?_⟩
      · simpa [groupText, isMark] using phrase.read
      · simpa [groupText, noMark] using phrase.kept
      · rw [differs noMark, differs isMark]

/-! ## States -/

/-- Every group that is covered in one run is covered in the other. -/
def AreCoveredBy (groups others : List Bool) : Prop :=
  List.Forall₂ (fun here there => here = true → there = true) groups others

theorem AreCoveredBy.any {groups others : List Bool}
    (covered : AreCoveredBy groups others) (here : groups.any id = true) :
    others.any id = true := by
  induction covered with
  | nil => exact here
  | cons first _ ih =>
      rw [List.any_cons, Bool.or_eq_true] at here ⊢
      exact here.imp first ih

theorem AreCoveredBy.tail {groups others : List Bool}
    (covered : AreCoveredBy groups others) :
    AreCoveredBy groups.tail others.tail := by
  cases covered with
  | nil => exact .nil
  | cons _ behind => exact behind

/-- Another run is where this one is, and filters cover at least as much. -/
structure ScopeState.IsCoveredBy (state other : ScopeState) : Prop where
  groups : AreCoveredBy state.groups other.groups
  filtered : state.filtered = true → other.filtered = true
  joining : other.joining = state.joining
  afterPhrase : other.afterPhrase = state.afterPhrase
  inGroup : other.inGroup = state.inGroup

namespace ScopeState.IsCoveredBy

variable {state other : ScopeState} (covered : state.IsCoveredBy other)

include covered

theorem isCovered (here : state.isCovered = true) : other.isCovered = true := by
  rw [ScopeState.isCovered, Bool.or_eq_true] at here ⊢
  exact here.imp covered.filtered covered.groups.any

/-- What restricts the next phrase in one run restricts it in the other. -/
theorem isRestricted (here : (state.isCovered || state.joining) = true) :
    (other.isCovered || other.joining) = true := by
  rw [Bool.or_eq_true] at here ⊢
  exact here.imp covered.isCovered (covered.joining ▸ ·)

end ScopeState.IsCoveredBy

/-- What is known behind a filter, if there is one. -/
def ScopeState.behindFilter (state : ScopeState) (restricted : Bool) :
    ScopeState :=
  if restricted then state
  else { state with filtered := true, afterPhrase := false }

namespace ScopeState

variable (state : ScopeState) (restricted : Bool)

@[simp]
theorem groups_behindFilter :
    (state.behindFilter restricted).groups = state.groups := by
  cases restricted <;> rfl

@[simp]
theorem joining_behindFilter :
    (state.behindFilter restricted).joining = state.joining := by
  cases restricted <;> rfl

@[simp]
theorem inGroup_behindFilter :
    (state.behindFilter restricted).inGroup = state.inGroup := by
  cases restricted <;> rfl

/-- Behind a filter, or where none was needed, none is needed. -/
theorem isCovered_behindFilter {state : ScopeState} {restricted : Bool}
    (here : restricted = true → state.isCovered = true) :
    (state.behindFilter restricted).isCovered = true := by
  cases restricted with
  | true => exact here rfl
  | false => rfl

theorem isRestricted_behindFilter {state : ScopeState} {restricted : Bool}
    (here : restricted = true → (state.isCovered || state.joining) = true) :
    ((state.behindFilter restricted).isCovered ||
      (state.behindFilter restricted).joining) = true := by
  cases restricted with
  | true => exact here rfl
  | false => rfl

end ScopeState

section Filters

variable (column : Column) {restricted : Bool} {state after : ScopeState}
variable {part : List Char} {again : Token} {rest : List Token}

theorem isReadAs_name :
    IsReadAs column.name.toList (.word column.name.toList) ∧
      (Token.word column.name.toList).IsClosed :=
  isReadAs_word (by cases column <;> decide)
    fun _ member => (of_mem_name member).1

/-- A filter that was written is read as a filter. -/
theorem scopeParts_filterText
    (ungrouped : restricted = false → state.inGroup = false)
    (rest : List Token) :
    scopeParts column.name.toList state
        ((filterText column.name.toList restricted).flatMap tokens ++ rest) =
      (filterText column.name.toList restricted).map (dropRequiredSigns true) ++
        scopeParts column.name.toList (state.behindFilter restricted) rest := by
  cases restricted with
  | true => rfl
  | false =>
      have name := (isReadAs_name column).1
      have colon := (isReadAs_mark (by decide : ':' ∈ markChars)).1
      have noGroup := ungrouped rfl
      simp [filterText, name.tokens_eq, colon.tokens_eq, name.written,
        colon.written, scopeParts, scopeToken, scopeWord, scopeMark,
        Token.written, ScopeState.behindFilter, noGroup]

/-- A part is read again behind the filter that was written in front of it. -/
theorem scopeParts_behindFilter
    (ungrouped : restricted = false → state.inGroup = false)
    (read : IsReadAs part again)
    (step : ScopeStep column.name.toList (state.behindFilter restricted) again
      rest.head? [again.written] after) :
    scopeParts column.name.toList state
        ((filterText column.name.toList restricted ++ [part]).flatMap tokens ++
          rest) =
      (filterText column.name.toList restricted ++ [part]).map
          (dropRequiredSigns true) ++
        scopeParts column.name.toList after rest := by
  rw [List.flatMap_append, List.append_assoc,
    scopeParts_filterText column ungrouped, List.map_append, List.append_assoc,
    List.flatMap_singleton, read.tokens_eq, List.singleton_append,
    step.scopeParts_eq, List.map_singleton, read.written]

/-- A part without a filter is read again. -/
theorem scopeParts_part (read : IsReadAs part again)
    (step : ScopeStep column.name.toList state again rest.head?
      [again.written] after) :
    scopeParts column.name.toList state ([part].flatMap tokens ++ rest) =
      [part].map (dropRequiredSigns true) ++
        scopeParts column.name.toList after rest := by
  have none : filterText column.name.toList true = [] := rfl
  have ungrouped : true = false → state.inGroup = false :=
    fun same => absurd same (by decide)
  have behind := scopeParts_behindFilter column ungrouped read step
  rwa [none, List.nil_append] at behind

end Filters

/-! ## Steps -/

/-- What is known of the token that the second run finds behind a step. -/
structure Ahead (after : ScopeState) (next : Option Token)
    (others : List Token) : Prop where
  /-- Structuring marks stay where they are. -/
  mark : ∀ {c}, c ∉ "+^".toList → next = some (.mark c) →
    others.head? = some (.mark c)
  /-- No mark comes to stand behind a phrase. -/
  phrase : after.inGroup = false → after.afterPhrase = true →
    ∀ {c}, others.head? = some (.mark c) → next = some (.mark c)

section Steps

variable {column : Column} {state after other : ScopeState} {token : Token}
variable {next : Option Token} {parts : List (List Char)}

/-- The second run goes along with every step of the first one. -/
theorem ScopeStep.again
    (step : ScopeStep column.name.toList state token next parts after)
    (stable : token.IsStable) (covered : state.IsCoveredBy other)
    {others : List Token} (ahead : Ahead after next others) :
    ∃ otherAfter, after.IsCoveredBy otherAfter ∧
      scopeParts column.name.toList other
          (parts.flatMap tokens ++ others) =
        parts.map (dropRequiredSigns true) ++
          scopeParts column.name.toList otherAfter others := by
  cases step with
  | inner grouped =>
      rcases stable.exists_inner with ⟨again, read, kept, same⟩
      have step := @ScopeStep.inner column.name.toList other again others.head?
        (covered.inGroup.trans grouped)
      rw [kept] at step
      refine ⟨_, ?_, scopeParts_part column read step⟩
      exact ⟨covered.groups, covered.filtered, covered.joining,
        covered.afterPhrase, same⟩
  | opening ungrouped =>
      refine ⟨_, ?_, scopeParts_part column stable.kept
        (.opening (covered.inGroup.trans ungrouped))⟩
      exact ⟨.cons covered.isCovered covered.groups, id, covered.joining, rfl,
        covered.inGroup⟩
  | closing ungrouped =>
      refine ⟨_, ?_, scopeParts_part column stable.kept
        (.closing (covered.inGroup.trans ungrouped))⟩
      exact ⟨covered.groups.tail, covered.filtered, covered.joining, rfl,
        covered.inGroup⟩
  | join ungrouped afterPhrase =>
      refine ⟨_, ?_, scopeParts_part column stable.kept
        (.join (covered.inGroup.trans ungrouped)
          (covered.afterPhrase.trans afterPhrase))⟩
      exact ⟨covered.groups, covered.filtered, rfl, rfl, covered.inGroup⟩
  | skip => exact ⟨other, covered, rfl⟩
  | first ungrouped =>
      have noGroup := covered.inGroup.trans ungrouped
      have step := @ScopeStep.first column.name.toList
        (other.behindFilter (state.isCovered || state.joining)) others.head?
        (by simpa using noGroup)
      rw [ScopeState.isRestricted_behindFilter covered.isRestricted] at step
      refine ⟨_, ?_, scopeParts_behindFilter column (fun _ => noGroup)
        stable.kept step⟩
      exact ⟨by simpa using covered.groups, id, rfl, rfl,
        by simpa using covered.inGroup⟩
  | mark ungrouped noMark =>
      exact ⟨other, covered, scopeParts_part column stable.kept
        (.mark (covered.inGroup.trans ungrouped) noMark)⟩
  | names ungrouped noMark colon =>
      refine ⟨_, ?_, scopeParts_part column stable.kept
        (.names (covered.inGroup.trans ungrouped) noMark
          (ahead.mark (by decide) colon))⟩
      exact ⟨covered.groups, fun _ => rfl, covered.joining, rfl,
        covered.inGroup⟩
  | operator ungrouped _ combines =>
      have noGroup := covered.inGroup.trans ungrouped
      -- In front of a colon the operator names columns this time.
      by_cases colon : others.head? = some (.mark ':')
      · refine ⟨_, ?_, scopeParts_part column stable.kept
          (.names noGroup rfl colon)⟩
        exact ⟨covered.groups, fun _ => rfl, covered.joining, rfl,
          covered.inGroup⟩
      · refine ⟨_, ?_, scopeParts_part column stable.kept
          (.operator noGroup colon combines)⟩
        exact ⟨covered.groups, covered.filtered, covered.joining, rfl,
          covered.inGroup⟩
  | near ungrouped opens =>
      have noGroup := covered.inGroup.trans ungrouped
      have step := @ScopeStep.near column.name.toList
        (other.behindFilter state.isCovered) others.head?
        (by simpa using noGroup) (ahead.mark (by decide) opens)
      rw [ScopeState.isCovered_behindFilter covered.isCovered] at step
      refine ⟨_, ?_, scopeParts_behindFilter column (fun _ => noGroup)
        stable.kept step⟩
      exact ⟨by simpa using covered.groups, id, by simpa using covered.joining,
        rfl, rfl⟩
  | phrase ungrouped noMark noOperator noNames noNear =>
      have noGroup := covered.inGroup.trans ungrouped
      rcases stable.phrase noMark with ⟨again, phrase⟩
      have noColon : others.head? ≠ some (.mark ':') :=
        fun colon => noNames (ahead.phrase ungrouped rfl colon)
      have noOpening : again = .word "NEAR".toList →
          others.head? ≠ some (.mark '(') := by
        rintro rfl opens
        rcases phrase.same with rfl | ⟨written, same⟩
        · exact noNear rfl (ahead.phrase ungrouped rfl opens)
        · cases same
      have step := @ScopeStep.phrase column.name.toList
        (other.behindFilter (state.isCovered || state.joining)) again
        others.head? (by simpa using noGroup) (phrase.isMark_eq noMark)
        (phrase.isOperator_eq noOperator) noColon noOpening
      rw [ScopeState.isRestricted_behindFilter covered.isRestricted,
        phrase.kept] at step
      refine ⟨_, ?_, scopeParts_behindFilter column (fun _ => noGroup)
        phrase.read step⟩
      exact ⟨by simpa using covered.groups, id, rfl, rfl,
        by simpa using covered.inGroup⟩

/-- What the first token is read as behind a filter, if there is one. -/
theorem exists_head (column : Column) (restricted : Bool) {part : List Char}
    {again : Token} (read : IsReadAs part again) :
    ∃ first,
      ((filterText column.name.toList restricted ++ [part]).flatMap
        tokens).head? = some first ∧
      (first = again ∨ first = .word column.name.toList) := by
  cases restricted with
  | true => exact ⟨again, by simp [filterText, read.tokens_eq], Or.inl rfl⟩
  | false =>
      have name := (isReadAs_name column).1
      exact ⟨_, by simp [filterText, name.tokens_eq], Or.inr rfl⟩

/-- Behind a phrase no other token becomes a mark. -/
theorem ScopeStep.exists_head
    (step : ScopeStep column.name.toList state token next parts after)
    (stable : token.IsStable) (ungrouped : state.inGroup = false)
    (afterPhrase : state.afterPhrase = true) :
    ∃ first, (parts.flatMap tokens).head? = some first ∧
      ∀ {c}, first = .mark c → token = .mark c := by
  have kept : ([token.written].flatMap tokens).head? = some token := by
    simp [stable.kept.tokens_eq]
  cases step with
  | inner grouped => simp [ungrouped] at grouped
  | skip _ noPhrase => simp [afterPhrase] at noPhrase
  | opening | closing | join | mark | names | operator =>
      exact ⟨_, kept, id⟩
  | first | near =>
      rcases Query.exists_head column _ stable.kept with ⟨first, head, same⟩
      refine ⟨first, head, ?_⟩
      rintro c rfl
      rcases same with same | same
      · exact same.symm
      · cases same
  | phrase _ noMark =>
      rcases stable.phrase noMark with ⟨again, phrase⟩
      rcases Query.exists_head column _ phrase.read with ⟨first, head, same⟩
      refine ⟨first, head, ?_⟩
      rintro c rfl
      rcases same with rfl | same
      · cases phrase.isMark_eq noMark
      · cases same

/-- A structuring mark stays where it is. -/
theorem ScopeStep.head_of_mark {c : Char}
    (step : ScopeStep column.name.toList state (.mark c) next parts after)
    (stable : (Token.mark c).IsStable) (noSign : c ∉ "+^".toList) :
    (parts.flatMap tokens).head? = some (.mark c) := by
  have kept : ([[c]].flatMap tokens).head? = some (.mark c) := by
    simpa [Token.written] using congrArg List.head? stable.kept.tokens_eq
  cases step with
  | inner | opening | closing | mark => exact kept
  | join | skip | first => exact absurd (by decide) noSign
  | names _ noMark | phrase _ noMark => cases noMark

theorem ahead_scopeParts (column : Column) (after : ScopeState)
    {rest : List Token} (stable : ∀ token ∈ rest, token.IsStable) :
    Ahead after rest.head?
      ((scopeParts column.name.toList after rest).flatMap tokens) := by
  cases rest with
  | nil => exact ⟨by simp, by simp [scopeParts]⟩
  | cons token others =>
      have step := scopeStep column.name.toList after token others.head?
      have here := stable token (by simp)
      rw [scopeParts_cons, List.flatMap_append, List.head?_cons]
      constructor
      · intro c noSign same
        obtain rfl := Option.some.inj same
        rw [List.head?_append, step.head_of_mark here noSign]
        rfl
      · intro ungrouped afterPhrase c head
        rcases step.exists_head here ungrouped afterPhrase with
          ⟨first, same, kept⟩
        rw [List.head?_append, same] at head
        rw [kept (Option.some.inj head)]

/-- The second run leaves the parts of the first one, less their signs. -/
theorem scopeParts_again (column : Column) {list : List Token}
    (stable : ∀ token ∈ list, token.IsStable)
    (covered : state.IsCoveredBy other) :
    scopeParts column.name.toList other
        ((scopeParts column.name.toList state list).flatMap tokens) =
      (scopeParts column.name.toList state list).map
        (dropRequiredSigns true) := by
  induction list generalizing state other with
  | nil => rfl
  | cons token others ih =>
      have stableOthers : ∀ token ∈ others, token.IsStable :=
        fun token member => stable token (List.mem_cons_of_mem _ member)
      have step := scopeStep column.name.toList state token others.head?
      rw [scopeParts_cons, List.flatMap_append, List.map_append]
      rcases step.again (stable token (by simp)) covered
          (ahead_scopeParts column _ stableOthers) with
        ⟨otherAfter, coveredAfter, again⟩
      rw [again, ih stableOthers coveredAfter]

end Steps

/-! ## Queries -/

/-- What a closed token is written as is cut apart. -/
theorem Token.IsStable.isSeparate {token : Token} (stable : token.IsStable)
    (closed : token.IsClosed) {last : List Char}
    (here : last = token.written ∨
      token.isMark = false ∧ last = phraseText token) :
    IsSeparate last := by
  rcases here with rfl | ⟨noMark, rfl⟩
  · exact stable.kept.isSeparate closed
  · rcases stable.phrase noMark with ⟨again, phrase⟩
    exact phrase.read.isSeparate (phrase.closed closed)

/-- The parts of a filter are read as they are. -/
theorem exists_of_mem_filterText {column : Column} {restricted : Bool}
    {part : List Char}
    (member : part ∈ filterText column.name.toList restricted) :
    ∃ token, IsReadAs part token ∧ token.IsClosed ∧ token.written = part := by
  cases restricted with
  | true => cases member
  | false =>
      have name := isReadAs_name column
      have colon := isReadAs_mark (by decide : ':' ∈ markChars)
      simp only [filterText, Bool.false_eq_true, if_false, List.mem_cons,
        List.not_mem_nil, or_false] at member
      rcases member with rfl | rfl
      · exact ⟨_, name.1, name.2, rfl⟩
      · exact ⟨_, colon.1, colon.2, rfl⟩

/-- The parts of a scoped query are cut apart. -/
theorem areSeparate_scopeParts (column : Column) {text : List Char}
    {list : List Token} (cut : AreCutFrom text list)
    (stable : ∀ token ∈ list, token.IsStable) (state : ScopeState) :
    AreSeparate (scopeParts column.name.toList state list) := by
  induction list generalizing state with
  | nil => trivial
  | cons token others ih =>
      have step := scopeStep column.name.toList state token others.head?
      rcases cut with ⟨-, closed, behind⟩
      have separate := ih behind
        (fun token member => stable token (List.mem_cons_of_mem _ member))
        (scopeToken column.name.toList state token others.head?).2
      rw [scopeParts_cons]
      rcases step.exists_last with none | ⟨restricted, last, split, here⟩
      · rw [none]
        exact separate
      · rw [split, List.append_assoc]
        refine .append ?_ ⟨?_, separate⟩
        · intro part member
          rcases exists_of_mem_filterText member with ⟨_, read, apart, -⟩
          exact read.isSeparate apart
        · refine closed.imp
            (fun closed => (stable token (by simp)).isSeparate closed here) ?_
          rintro rfl
          rfl

/--
Scoping a scoped query again only drops signs, if no brace of the query holds a
quote.
-/
theorem scopeChars_again (column : Column) {text : List Char}
    (plain : HasPlainBraces text) :
    scopeChars column.name.toList (scopeChars column.name.toList text) =
      dropRequiredSigns true (scopeChars column.name.toList text) := by
  have stable : ∀ token ∈ tokens text, token.IsStable :=
    fun _ => isStable_of_mem plain
  have separate :=
    areSeparate_scopeParts column (areCutFrom_tokens text) stable {}
  have covered : ScopeState.IsCoveredBy {} {} := ⟨.nil, id, rfl, rfl, rfl⟩
  have cut := separate.tokens_intercalate
  rw [← scopeChars] at cut
  rw [scopeChars, cut, scopeParts_again column stable covered,
    ← dropRequiredSigns_intercalate]
  rfl

/-! ## Signs that are left -/

/-- A phrase has no sign, unless it is a brace that ends in one. -/
theorem dropRequiredSigns_phraseText {text : List Char} {token : Token}
    (plain : HasPlainBraces text) (member : token ∈ tokens text)
    (noMark : token.isMark = false)
    (noSign : ∀ written, token = .braced written → ¬ EndsInSign written) :
    dropRequiredSigns true (phraseText token) = phraseText token := by
  have cut := (areCutFrom_tokens text).isCutFrom member
  have kept := (isStable_of_mem plain member).kept.written
  have free := (isSignFree_dropRequiredSigns true text).within cut.inside
  have quoted (ends : ¬ EndsInSign token.written) :
      dropRequiredSigns true ('"' :: token.written ++ ['"']) =
        '"' :: token.written ++ ['"'] :=
    dropRequiredSigns_of_free (isSignFree_quotes free ends) (by decide) true
  cases token with
  | mark c => cases noMark
  | quoted written => exact kept
  | braced written => exact quoted (noSign written rfl)
  | word characters =>
      rw [phraseText_word]
      split
      · exact kept
      · refine quoted ?_
        rintro ⟨before, ends, -⟩
        have inWord := plain.inWord member '+' (ends.mem (by simp))
        exact absurd inWord (by decide)

/-- The parts of a scoped query have no signs, unless a brace ends in one. -/
theorem dropRequiredSigns_part {text : List Char}
    (plain : HasPlainBraces text)
    (noSign : ∀ written, .braced written ∈ tokens text → ¬ EndsInSign written)
    (column : Column) {list : List Token}
    (cut : ∀ token ∈ list, token ∈ tokens text) (state : ScopeState)
    {part : List Char}
    (member : part ∈ scopeParts column.name.toList state list) :
    dropRequiredSigns true part = part := by
  induction list generalizing state with
  | nil => cases member
  | cons token others ih =>
      have step := scopeStep column.name.toList state token others.head?
      have here := cut token (by simp)
      rw [scopeParts_cons] at member
      rcases List.mem_append.mp member with first | behind
      · rcases step.exists_last with none | ⟨restricted, last, split, becomes⟩
        · rw [none] at first
          cases first
        · rw [split] at first
          rcases List.mem_append.mp first with filter | same
          · rcases exists_of_mem_filterText filter with ⟨_, read, -, written⟩
            exact read.written.trans written
          · obtain rfl := List.mem_singleton.mp same
            rcases becomes with rfl | ⟨noMark, rfl⟩
            · exact (isStable_of_mem plain here).kept.written
            · refine dropRequiredSigns_phraseText plain here noMark ?_
              rintro written rfl
              exact noSign written here
      · refine ih ?_ _ behind
        exact fun token member => cut token (List.mem_cons_of_mem _ member)

/-- A brace that is never closed becomes a phrase. -/
theorem phraseText_mem_scopeParts (column : Column) {text written : List Char}
    {list : List Token} (cut : AreCutFrom text list)
    (unclosed : ¬ (Token.braced written).IsClosed)
    (member : .braced written ∈ list) (state : ScopeState) :
    phraseText (.braced written) ∈
      scopeParts column.name.toList state list := by
  induction list generalizing state with
  | nil => cases member
  | cons token others ih =>
      have step := scopeStep column.name.toList state token others.head?
      rcases cut with ⟨-, closed, behind⟩
      rw [scopeParts_cons, List.mem_append]
      rcases List.mem_cons.mp member with rfl | inside
      · obtain rfl := closed.resolve_left unclosed
        exact Or.inl step.phraseText_mem
      · exact Or.inr (ih behind inside _)

/-- A brace that ends in a sign leaves a sign in the scoped query. -/
theorem not_isSignFree_scopeChars (column : Column) {text written : List Char}
    (member : .braced written ∈ tokens text) (ends : EndsInSign written) :
    ¬ IsSignFree (scopeChars column.name.toList text) := by
  intro free
  rcases ends with ⟨before, ⟨front, rfl⟩, opening⟩
  have unclosed : ¬ (Token.braced (front ++ [before, '+'])).IsClosed := by
    intro closed
    have last := (closed.brace rfl).getLast (by simp)
    simp at last
  have phrase := phraseText_mem_scopeParts column (areCutFrom_tokens text)
    unclosed member {}
  have sign : [before, '+', '"'] <:+:
      phraseText (.braced (front ++ [before, '+'])) :=
    ⟨'"' :: front, [], by simp [phraseText, Token.written]⟩
  have blank := free before '"' (sign.trans (isInfix_intercalate phrase)) opening
  exact absurd blank (by decide)

/--
Scoping a query twice is the same as scoping it once, if no brace of the query
holds a quote, unless a brace that is never closed ends in a plus sign behind a
blank or a parenthesis.
-/
theorem scope_scope_eq_iff {column : Column} {text : String}
    (plain : HasPlainBraces text.toList) :
    scope (scope text column.name) column.name = scope text column.name ↔
      ∀ written, .braced written ∈ tokens text.toList →
        ¬ EndsInSign written := by
  have again := scopeChars_again column plain
  have same : scope (scope text column.name) column.name =
        scope text column.name ↔
      dropRequiredSigns true (scopeChars column.name.toList text.toList) =
        scopeChars column.name.toList text.toList := by
    rw [scope, scope, String.toList_ofList, again, String.ofList_inj]
  rw [same]
  constructor
  · intro kept written member ends
    refine not_isSignFree_scopeChars column member ends ?_
    rw [← kept]
    exact isSignFree_dropRequiredSigns true _
  · intro noSign
    have kept : ∀ part ∈
        scopeParts column.name.toList {} (tokens text.toList),
          dropRequiredSigns true part = id part :=
      fun _ => dropRequiredSigns_part plain noSign column (fun _ => id) {}
    rw [scopeChars, dropRequiredSigns_intercalate, List.map_congr_left kept,
      List.map_id]

/-- A required word, a joined phrase, and a brace that names columns. -/
def mixedQuery : String :=
  "+a AND (b + \"c\") OR \x7blevel host\x7d : d-e"

theorem eq_of_braced_mem_mixedQuery {written : List Char}
    (member : .braced written ∈ tokens mixedQuery.toList) :
    written = "\x7blevel host\x7d".toList := by
  have cut : tokens mixedQuery.toList =
      [.word "a".toList, .word "AND".toList, .mark '(', .word "b".toList,
        .mark '+', .quoted "\"c\"".toList, .mark ')', .word "OR".toList,
        .braced "\x7blevel host\x7d".toList, .mark ':',
        .word "d-e".toList] := by decide
  rw [cut] at member
  simpa using member

theorem scope_scope_mixedQuery :
    HasPlainBraces mixedQuery.toList ∧
      scope (scope mixedQuery "message") "message" =
        scope mixedQuery "message" := by
  have plain : HasPlainBraces mixedQuery.toList := by
    intro written member
    rw [eq_of_braced_mem_mixedQuery member]
    decide
  refine ⟨plain, (@scope_scope_eq_iff .message _ plain).mpr ?_⟩
  rintro written member ⟨before, ends, -⟩
  rw [eq_of_braced_mem_mixedQuery member] at ends
  have last := ends.getLast (by simp)
  simp at last

/-- The sign at the end of a brace that is never closed is left by the first
run, and dropped by the second one. -/
theorem exists_scope_scope_ne :
    ∃ text : String, HasPlainBraces text.toList ∧
      scope (scope text defaultColumn) defaultColumn ≠
        scope text defaultColumn := by
  refine ⟨"\x7b +", ?_, by decide⟩
  have cut : tokens "\x7b +".toList = [.braced "\x7b +".toList] := by decide
  intro written member
  rw [cut, List.mem_singleton, Token.braced.injEq] at member
  rw [member]
  decide

end ClusterLog.Query
