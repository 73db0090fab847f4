import ClusterLog.Proofs.Query.Reading
import Mathlib.Data.List.Basic

/-!
# Texts behind column filters

Texts that stand one after the other, each behind a column filter of its own,
are read under all limits that leave room for one of them.  A document meets
them if the terms of every text follow each other in a column that the filter of
the text allows; texts without terms do not count.
-/

namespace ClusterLog

/-- The terms of a text follow each other in a column of a document. -/
def Document.HasPhrase (document : Document) (column : Column)
    (content : List Char) : Prop :=
  Term.terms content <:+: document.terms column

instance (document : Document) (column : Column) (content : List Char) :
    Decidable (document.HasPhrase column content) :=
  inferInstanceAs (Decidable (_ <:+: _))

namespace Query

open Text

/-! ## Plain phrases -/

/-- The terms of a phrase without stars. -/
def closedTerms (terms : List Term) : List PhraseTerm :=
  terms.map fun term => { term := term }

theorem beginsWith_closedTerms {wanted found : List Term} :
    Phrase.beginsWith (closedTerms wanted) found = true ↔ wanted <+: found := by
  induction wanted generalizing found with
  | nil => simp [closedTerms, Phrase.beginsWith]
  | cons term wanted ih =>
      cases found with
      | nil => simp [closedTerms, Phrase.beginsWith]
      | cons first found =>
          rw [List.cons_prefix_cons, ← ih]
          simp [closedTerms, Phrase.beginsWith, PhraseTerm.accepts]

/-- A phrase stands somewhere exactly where its terms follow each other. -/
theorem positionsFrom_closedTerms {wanted : List Term} (nonempty : wanted ≠ [])
    (position : Nat) (found : List Term) :
    Phrase.positionsFrom (closedTerms wanted) position found ≠ [] ↔
      wanted <:+: found := by
  induction found generalizing position with
  | nil => simpa [Phrase.positionsFrom] using nonempty
  | cons first found ih =>
      rw [Phrase.positionsFrom, List.infix_cons_iff, ← beginsWith_closedTerms,
        ← ih (position + 1)]
      split
      · rename_i begins
        simp [begins]
      · rename_i differs
        simp [differs]

/-- A text without a star becomes the phrase of its terms. -/
theorem extend_closed (content : List Char) :
    Phrase.extend {} content false =
      { terms := closedTerms (Term.terms content) } := by
  cases final : (closedTerms (Term.terms content)).getLast? with
  | none =>
      have none : closedTerms (Term.terms content) = [] :=
        List.getLast?_eq_none_iff.mp final
      simp only [closedTerms] at none
      simp [Phrase.extend, closedTerms, none]
  | some last =>
      rcases List.mem_map.mp (List.mem_of_getLast? final) with ⟨term, -, rfl⟩
      have parts := List.dropLast_append_getLast? _ (Option.mem_def.mpr final)
      simp only [closedTerms] at final parts
      simp [Phrase.extend, closedTerms, final, parts]

/-! ## Texts -/

/-- A text in quotes behind a column filter, which may have a minus sign in
front. -/
structure FilteredText where
  isExcluding : Bool
  filter : WrittenFilter
  content : List Char

namespace FilteredText

/-- The lexemes of a filter with its sign. -/
def front (text : FilteredText) : List Lexeme :=
  (if text.isExcluding then [.mark '-'] else []) ++ lexemesOf text.filter.pieces

/-- The lexemes of a text with its filter. -/
def lexemes (text : FilteredText) : List Lexeme :=
  text.front ++ [.text (inQuotes text.content)]

/-- The columns in which a text is looked for. -/
def columns (text : FilteredText) : List Column :=
  if text.isExcluding then otherColumns text.filter.columns
  else text.filter.columns

/-- What a text looks for. -/
def meaning (text : FilteredText) : Group where
  filter := some text.columns
  phrases := [{ terms := closedTerms (Term.terms text.content) }]

theorem isVoid_meaning (text : FilteredText) :
    text.meaning.isVoid = (Term.terms text.content).isEmpty := by
  cases terms : Term.terms text.content <;>
    simp [meaning, Group.isVoid, Group.realPhrases, Phrase.isVoid, closedTerms,
      terms]

theorem holdsIn_meaning {text : FilteredText}
    (nonempty : Term.terms text.content ≠ []) (found : List Term) :
    text.meaning.holdsIn found = true ↔ Term.terms text.content <:+: found := by
  have real : Phrase.isVoid { terms := closedTerms (Term.terms text.content) } =
      false := by
    simpa [Phrase.isVoid, closedTerms] using nonempty
  rw [← positionsFrom_closedTerms nonempty 0 found]
  simp [Group.holdsIn, Group.realPhrases, meaning, real, Phrase.positions]

/-- A text is found in the documents that have its phrase in one of its
columns. -/
theorem holds_meaning {text : FilteredText}
    (nonempty : Term.terms text.content ≠ []) (document : Document) :
    text.meaning.holds (fun _ => true) document.terms = true ↔
      ∃ column ∈ text.columns, document.HasPhrase column text.content := by
  have listed : ∀ column, column ∈ Column.all := by
    intro column
    cases column <;> decide
  simp only [Group.holds, List.any_eq_true, Bool.true_and, Bool.and_eq_true,
    holdsIn_meaning nonempty]
  simp [listed, meaning, allows, Document.HasPhrase]

theorem mem_columns {text : FilteredText} {column : Column} :
    column ∈ text.columns ↔
      if text.isExcluding then column ∉ text.filter.columns
      else column ∈ text.filter.columns := by
  cases isExcluding : text.isExcluding with
  | false => simp [columns, isExcluding]
  | true => cases column <;> simp [columns, isExcluding, otherColumns, Column.all]

/-- Texts one after the other are found in the documents that have the phrase of
every text with terms, as long as there is such a text. -/
theorem holds_texts (texts : List FilteredText) (document : Document) :
    (Expression.groups (texts.map (·.meaning))).holds document = true ↔
      (∃ text ∈ texts, Term.terms text.content ≠ []) ∧
      ∀ text ∈ texts, Term.terms text.content ≠ [] →
        ∃ column ∈ text.columns, document.HasPhrase column text.content := by
  have real : Expression.realGroups (texts.map (·.meaning)) =
      (texts.filter fun text => !(Term.terms text.content).isEmpty).map
        (·.meaning) := by
    rw [Expression.realGroups, List.filter_map]
    simp only [Function.comp_def, isVoid_meaning]
  have counted : ∀ text : FilteredText,
      (!(Term.terms text.content).isEmpty) = true ↔
        Term.terms text.content ≠ [] := by
    intro text
    simp
  rw [Expression.holds, Expression.holdsFor, real, Bool.and_eq_true]
  refine and_congr ?_ ?_
  · simp [List.filter_eq_nil_iff]
  · simp only [List.all_eq_true, List.forall_mem_map, List.mem_filter, counted]
    constructor
    · intro holds text member nonempty
      exact (holds_meaning nonempty document).mp (holds text ⟨member, nonempty⟩)
    · rintro found text ⟨member, nonempty⟩
      exact (holds_meaning nonempty document).mpr (found text member nonempty)

end FilteredText

/-! ## Reading -/

variable {limits : Limits} {depth : Nat}

theorem keep_of_le (fits : depth ≤ limits.depth) :
    (whole limits).keep depth = .ok () :=
  if_pos fits

theorem readNames_eq (others : List Column) (deep : depth + 1 ≤ limits.depth)
    (rest : Rest) :
    readNames (whole limits) depth
        (others.map nameLexeme ++ .mark '\x7d' :: rest) =
      .ok (others, rest) := by
  induction others with
  | nil =>
      rw [List.map_nil, List.nil_append, readNames, keep_of_le deep]
      rfl
  | cons column others ih =>
      rw [List.map_cons, List.cons_append, nameLexeme, readNames,
        keep_of_le deep, columnOf_name, ih]
      rfl

theorem readColumns_eq (filter : WrittenFilter)
    (deep : depth + 3 ≤ limits.depth) (rest : Rest) :
    readColumns (whole limits) depth (lexemesOf filter.pieces ++ rest) =
      .ok (filter.columns, .mark ':' :: rest) := by
  cases filter with
  | one column =>
      have room : depth + 1 ≤ limits.depth := by omega
      rw [lexemesOf_one, List.cons_append, readColumns, keep_of_le room,
        columnOf_name]
      rfl
  | several isPadded first others =>
      have roomBrace : depth + 1 ≤ limits.depth := by omega
      have roomName : depth + 2 ≤ limits.depth := by omega
      have names := readNames_eq others deep (.mark ':' :: rest)
      rw [lexemesOf_several]
      simp only [List.cons_append, List.append_assoc, List.nil_append,
        readColumns, keep_of_le roomBrace, keep_of_le roomName, columnOf_name,
        names]
      rfl

theorem readColon_eq (columns : List Column) (deep : depth + 2 ≤ limits.depth)
    (rest : Rest) :
    readColon (whole limits) depth columns (.mark ':' :: rest) =
      .ok (some columns, rest) := by
  rw [readColon, keep_of_le deep]
  rfl

/-- A filter is read, with or without a minus sign in front. -/
theorem readFilter_front (text : FilteredText)
    (deep : depth + 4 ≤ limits.depth) (rest : Rest) :
    readFilter (whole limits) depth (text.front ++ rest) =
      .ok (some text.columns, rest) := by
  rcases text with ⟨isExcluding, filter, content⟩
  have colon := fun columns =>
    readColon_eq columns (by omega : depth + 2 ≤ limits.depth) rest
  cases isExcluding with
  | true =>
      have room : depth + 1 ≤ limits.depth := by omega
      have names := readColumns_eq filter
        (by omega : depth + 1 + 3 ≤ limits.depth) rest
      simp only [FilteredText.front, if_true, List.cons_append, List.nil_append,
        readFilter, keep_of_le room, names, colon, bind, Except.bind]
      rfl
  | false =>
      have names := readColumns_eq filter
        (by omega : depth + 3 ≤ limits.depth) rest
      have front : FilteredText.front ⟨false, filter, content⟩ =
          lexemesOf filter.pieces := rfl
      rw [front]
      cases filter with
      | one column =>
          rw [lexemesOf_one] at names ⊢
          simp only [List.cons_append, List.nil_append] at names ⊢
          rw [readFilter, names]
          exact colon [column]
      | several isPadded first others =>
          rw [lexemesOf_several] at names ⊢
          simp only [List.cons_append] at names ⊢
          rw [readFilter, names]
          exact colon (first :: others)

/-- A quoted text is read as the phrase of its terms. -/
theorem readGroup_inQuotes (content : List Char) {rest : Rest}
    (ends : EndsPhrase rest) (steps : Nat) (deep : depth + 2 ≤ limits.depth) :
    readGroup (whole limits) steps depth (.text (inQuotes content) :: rest) =
      .ok ({ phrases := [{ terms := closedTerms (Term.terms content) }] },
        rest) := by
  have room : depth + 1 ≤ limits.depth := by omega
  have star : readStar (whole limits) (depth + 1) rest = .ok (false, rest) := by
    rw [readStar_of_head (ends '*' (by decide)), keep_of_le deep]
    rfl
  have phrase :
      readPhrase (whole limits) steps depth (.text (inQuotes content) :: rest) =
        .ok ({ terms := closedTerms (Term.terms content) }, rest) := by
    rw [readPhrase, keep_of_le room]
    simp only [bind, Except.bind, star, unquote_inQuotes, extend_closed]
    exact readJoined_of_head (ends '+' (by decide)) _ _ _ _
  rw [readGroup_text (ends '(' (by decide)), phrase]
  rfl

/-- The lexemes of a filter begin a group. -/
theorem FilteredText.exists_front (text : FilteredText) :
    ∃ lexeme others,
      text.front = lexeme :: others ∧ beginsGroup lexeme = true := by
  rcases text with ⟨isExcluding, filter, content⟩
  cases isExcluding with
  | true => exact ⟨_, _, rfl, by decide⟩
  | false =>
      cases filter with
      | one column => exact ⟨_, _, lexemesOf_one column, rfl⟩
      | several isPadded first others =>
          exact ⟨_, _, lexemesOf_several isPadded first others, by decide⟩

theorem endsPhrase_texts (texts : List FilteredText) :
    EndsPhrase (texts.flatMap (·.lexemes)) := by
  cases texts with
  | nil => simp [EndsPhrase]
  | cons text texts =>
      rcases text.exists_front with ⟨lexeme, others, front, begins⟩
      rw [List.flatMap_cons, FilteredText.lexemes, front]
      exact endsPhrase_of_beginsGroup begins

theorem readGroups_texts (texts : List FilteredText)
    (deep : depth + 5 ≤ limits.depth) {steps : Nat}
    (enough : texts.length ≤ steps) :
    readGroups (whole limits) depth steps (texts.flatMap (·.lexemes)) =
      .ok (texts.map (·.meaning), []) := by
  induction texts generalizing steps with
  | nil => cases steps <;> rfl
  | cons text texts ih =>
      obtain ⟨steps, rfl⟩ : ∃ fewer, steps = fewer + 1 :=
        Nat.exists_eq_succ_of_ne_zero (by simp at enough; omega)
      rcases text.exists_front with ⟨lexeme, others, front, begins⟩
      have filter := readFilter_front text
        (by omega : depth + 1 + 4 ≤ limits.depth)
        (.text (inQuotes text.content) :: texts.flatMap (·.lexemes))
      have group := readGroup_inQuotes text.content (endsPhrase_texts texts)
        steps (by omega : depth + 1 + 2 + 2 ≤ limits.depth)
      have behind : readGroups (whole limits) depth steps
          (texts.flatMap (·.lexemes)) = _ :=
        ih (by simpa using enough)
      rw [front] at filter
      rw [List.flatMap_cons, FilteredText.lexemes, front, List.append_assoc,
        List.cons_append, readGroups, if_pos begins]
      simp only [List.cons_append, List.nil_append] at filter ⊢
      rw [filter]
      simp only [bind, Except.bind, filterParts, group, behind]
      rfl

/-- Texts behind filters are read one after the other. -/
theorem readOperand_texts (first : FilteredText) (others : List FilteredText)
    (deep : depth + 5 ≤ limits.depth) {steps : Nat}
    (enough : others.length ≤ steps) :
    readOperand (whole limits) (steps + 1) depth
        ((first :: others).flatMap (·.lexemes)) =
      .ok (.groups ((first :: others).map (·.meaning)), []) := by
  have filter := readFilter_front first
    (by omega : depth + 4 ≤ limits.depth)
    (.text (inQuotes first.content) :: others.flatMap (·.lexemes))
  have group := readGroup_inQuotes first.content (endsPhrase_texts others)
    steps (by omega : depth + 2 + 2 ≤ limits.depth)
  have behind := readGroups_texts others deep enough
  rw [List.flatMap_cons, FilteredText.lexemes, List.append_assoc,
    List.cons_append, List.nil_append, readOperand, filter]
  simp only [bind, Except.bind, filterParts, group, behind]
  rfl

theorem length_texts_le (texts : List FilteredText) :
    texts.length ≤ (texts.flatMap (·.lexemes)).length := by
  induction texts with
  | nil => simp
  | cons text texts ih =>
      have one : 1 ≤ text.lexemes.length := by simp [FilteredText.lexemes]
      rw [List.flatMap_cons, List.length_append, List.length_cons]
      omega

/-- Under limits with room for one of them, texts behind filters are read as
what they look for. -/
theorem readAll_texts {expression : List Char} (first : FilteredText)
    (others : List FilteredText)
    (cut : lexemes expression = ((first :: others).flatMap (·.lexemes), none))
    (deep : 5 ≤ limits.depth) :
    readAll limits expression =
      .ok (.groups ((first :: others).map (·.meaning))) := by
  have count := length_texts_le (first :: others)
  obtain ⟨steps, fuel, enough⟩ : ∃ steps,
      3 * ((first :: others).flatMap (·.lexemes)).length + 3 = steps + 1 + 1 ∧
        others.length ≤ steps :=
    ⟨_, rfl, by simp only [List.length_cons] at count; omega⟩
  have operand := readOperand_texts first others
    (by omega : 0 + 5 ≤ limits.depth) enough
  have nothing : ∀ operator,
      ([] : Rest).head? = some (.operator operator) →
        operator.strength < 0 := by
    intro operator head
    cases head
  have expression :
      readExpression (whole limits) (steps + 1 + 1) 0 0
          ((first :: others).flatMap (·.lexemes)) =
        .ok (.groups ((first :: others).map (·.meaning)), []) := by
    rw [readExpression_eq, operand]
    exact readOperators_of_head nothing _ _ _ _
  rw [← fuel] at expression
  rw [readAll, cut]
  exact congrArg (· >>= _) expression

end Query

end ClusterLog
