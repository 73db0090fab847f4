import ClusterLog.Proofs.Index.PlainSearch
import ClusterLog.Proofs.Index.ExactHits
import ClusterLog.Proofs.Query.QuotedText

/-!
# Column filters with a minus sign

The query language excludes columns by a minus sign in front of their filter.
A search keeps the sign only where it is glued to a single column name, since it
is part of that word then.  Everywhere else the sign is a word of its own: a
term without letters that is restricted to the default column and asks for
nothing.  The filter behind it then allows the columns that it should exclude.
-/

namespace ClusterLog.Query

open Text

/-- A filter with a minus sign in front of a quoted text, with or without a
blank behind the sign. -/
def exclusionText (isSpaced : Bool) (filter : WrittenFilter)
    (content : List Char) : List Char :=
  '-' :: (if isSpaced then [' '] else []) ++
    [' '].intercalate ((filter.piecesOver content).map (·.written))

/-- Whether the minus sign in front of a filter is part of a column name. -/
def WrittenFilter.keepsMinus (isSpaced : Bool) : WrittenFilter → Bool
  | one _ => !isSpaced
  | several _ _ _ => false

section

variable {isSpaced : Bool} {filter : WrittenFilter} {content : List Char}

theorem keepsMinus_eq_true :
    filter.keepsMinus isSpaced = true ↔
      isSpaced = false ∧ ∃ column, filter = .one column := by
  cases filter <;> simp [WrittenFilter.keepsMinus]

/-! ## Glued signs -/

/-- A minus sign in front of an expression is a mark of its own. -/
theorem lexemes_minus (rest : List Char) :
    lexemes ('-' :: rest) = withFront [.mark '-'] (lexemes rest) :=
  rfl

/-- A minus sign that is glued to a column name stays in front of the name. -/
theorem scopeChars_glued (plain column : Column)
    (noNull : ∀ c ∈ content, c.toNat ≠ 0) :
    scopeChars plain.name.toList (exclusionText false (.one column) content) =
      '-' :: [' '].intercalate
        (((WrittenFilter.one column).piecesOver content).map (·.part)) := by
  have sound : ∀ piece ∈
      [Piece.word false ('-' :: column.name.toList), .mark ':',
        .quoted false content], piece.IsSound := by
    intro piece member
    rcases List.mem_cons.mp member with rfl | behind
    · refine ⟨by simp, ?_⟩
      intro c inside
      rcases List.mem_cons.mp inside with rfl | name
      · decide
      · exact of_mem_name name
    · have known : piece ∈ (WrittenFilter.one column).piecesOver content :=
        List.mem_cons_of_mem _ behind
      exact WrittenFilter.isSound_of_mem_piecesOver noNull known
  have text : exclusionText false (.one column) content =
      [' '].intercalate
        ([Piece.word false ('-' :: column.name.toList), .mark ':',
          .quoted false content].map (·.written)) := by
    simp [exclusionText, WrittenFilter.piecesOver, WrittenFilter.pieces,
      Piece.written, Piece.sign]
  have name : (Piece.word false column.name.toList).part = column.name.toList :=
    Column.part_name false column
  rw [scopeChars, text, tokens_pieces sound]
  simp only [WrittenFilter.piecesOver, WrittenFilter.pieces, List.map_cons,
    List.map_append, List.map_nil, name]
  rfl

/-! ## Signs of their own -/

/-- The word of a minus sign. -/
def minusWord : Word where
  characters := ['-']
  nonempty := by decide
  wordChars := by decide
  noNull := by decide
  noOperator := by decide

/-- A minus sign in front of a quoted text behind a filter. -/
def minusQuery (filter : WrittenFilter) (content : List Char)
    (noNull : ∀ c ∈ content, c.toNat ≠ 0) : WrittenQuery 0 :=
  .items ⟨none, .phrase false ⟨false, ⟨.word minusWord, false⟩, []⟩⟩
    [⟨some filter, .phrase false ⟨false, ⟨.quoted content noNull, false⟩, []⟩⟩]

theorem text_minusQuery (noNull : ∀ c ∈ content, c.toNat ≠ 0) :
    (minusQuery filter content noNull).text =
      exclusionText true filter content := by
  have pieces : (minusQuery filter content noNull).pieces =
      .word false ['-'] :: filter.piecesOver content := by
    cases filter <;> rfl
  rw [WrittenQuery.text, pieces, exclusionText]
  cases filter <;> simp [WrittenFilter.piecesOver, WrittenFilter.pieces,
    Piece.written, Piece.sign]

theorem pieces_restricted_minusQuery (noNull : ∀ c ∈ content, c.toNat ≠ 0) :
    ((minusQuery filter content noNull).restricted .message false).pieces =
      (WrittenFilter.one .message).pieces ++
        .word false ['-'] :: filter.piecesOver content := by
  cases filter <;> rfl

/-- In front of a brace it makes no difference whether the sign is spaced. -/
theorem tokens_minus_brace (rest : List Char) :
    tokens ('-' :: '\x7b' :: rest) = tokens ('-' :: ' ' :: '\x7b' :: rest) := by
  have noPlus : '-' ≠ '+' ∧ ' ' ≠ '+' ∧ '\x7b' ≠ '+' := by decide
  rw [tokens, tokens, dropRequiredSigns_of_ne noPlus.1,
    dropRequiredSigns_of_ne noPlus.1, dropRequiredSigns_of_ne noPlus.2.1,
    dropRequiredSigns_of_ne noPlus.2.2, dropRequiredSigns_of_ne noPlus.2.2]
  rfl

theorem tokens_exclusionText (own : filter.keepsMinus isSpaced = false) :
    tokens (exclusionText isSpaced filter content) =
      tokens (exclusionText true filter content) := by
  cases isSpaced with
  | true => rfl
  | false =>
      cases filter with
      | one column => cases own
      | several isPadded first others =>
          simp [exclusionText, WrittenFilter.piecesOver, WrittenFilter.pieces,
            Piece.written, Piece.sign]
          exact tokens_minus_brace _

/-- What a sign of its own and the text behind it become. -/
theorem scopeChars_own (plain : Column)
    (own : filter.keepsMinus isSpaced = false)
    (noNull : ∀ c ∈ content, c.toNat ≠ 0) :
    scopeChars plain.name.toList (exclusionText isSpaced filter content) =
      [' '].intercalate
        (((minusQuery filter content noNull).restricted plain false).pieces.map
          (·.part)) := by
  rw [← scopeChars_text, text_minusQuery, scopeChars, scopeChars,
    tokens_exclusionText own]

/-! ## What is asked for -/

/-- The texts behind filters that are looked for: a sign of its own, which
plain text is restricted to the default column, and the quoted text. -/
def exclusionTexts (isSpaced : Bool) (filter : WrittenFilter)
    (content : List Char) : List FilteredText :=
  (if filter.keepsMinus isSpaced then [] else [⟨false, .one .message, ['-']⟩]) ++
    [⟨filter.keepsMinus isSpaced, filter, dropSigns false content⟩]

/-- What a quoted text behind a filter with a minus sign asks for. -/
def exclusionQuery (isSpaced : Bool) (filter : WrittenFilter)
    (content : List Char) : Expression :=
  .groups ((exclusionTexts isSpaced filter content).map (·.meaning))

/-- The scoped text is cut into the lexemes of the texts that are looked for. -/
theorem lexemes_exclusion (noNull : ∀ c ∈ content, c.toNat ≠ 0) :
    lexemes (scopeChars defaultColumn.toList
        (exclusionText isSpaced filter content)) =
      ((exclusionTexts isSpaced filter content).flatMap (·.lexemes), none) := by
  cases kept : filter.keepsMinus isSpaced with
  | true =>
      rcases keepsMinus_eq_true.mp kept with ⟨rfl, column, rfl⟩
      have glued : scopeChars defaultColumn.toList _ = _ :=
        scopeChars_glued .message column noNull
      rw [glued, lexemes_minus, lexemes_piecesOver noNull]
      rfl
  | false =>
      have own : scopeChars defaultColumn.toList _ = _ :=
        scopeChars_own .message kept noNull
      have texts : exclusionTexts isSpaced filter content =
          [⟨false, .one .message, ['-']⟩,
            ⟨false, filter, dropSigns false content⟩] := by
        simp [exclusionTexts, kept]
      rw [own, lexemes_parts fun _ => WrittenQuery.isSound_of_mem,
        pieces_restricted_minusQuery, WrittenFilter.piecesOver, texts,
        List.flatMap_cons, List.flatMap_singleton, List.flatMap_append,
        List.flatMap_cons, List.flatMap_append]
      rfl

theorem head?_exclusion_ne (noNull : ∀ c ∈ content, c.toNat ≠ 0) :
    (scopeChars defaultColumn.toList
      (exclusionText isSpaced filter content)).head? ≠ some '*' := by
  cases kept : filter.keepsMinus isSpaced with
  | true =>
      rcases keepsMinus_eq_true.mp kept with ⟨rfl, column, rfl⟩
      have glued : scopeChars defaultColumn.toList _ = _ :=
        scopeChars_glued .message column noNull
      rw [glued]
      simp
  | false =>
      have own : scopeChars defaultColumn.toList _ = _ :=
        scopeChars_own .message kept noNull
      rw [own]
      exact head?_parts_ne _

/-- The sign, its filter and the text behind it are read under all limits with
room for them. -/
theorem ofExpression_exclusion (noNull : ∀ c ∈ content, c.toNat ≠ 0)
    {limits : Limits} (deep : 5 ≤ limits.depth) :
    Request.ofExpression limits (scopeChars defaultColumn.toList
        (exclusionText isSpaced filter content)) =
      .ok (.query (exclusionQuery isSpaced filter content)) := by
  have cut : lexemes (scopeChars defaultColumn.toList
      (exclusionText isSpaced filter content)) = _ :=
    lexemes_exclusion noNull
  obtain ⟨first, others, texts⟩ : ∃ first others,
      exclusionTexts isSpaced filter content = first :: others := by
    unfold exclusionTexts
    split <;> exact ⟨_, _, rfl⟩
  rw [texts] at cut
  rw [exclusionQuery, texts, ofExpression_of_head (head?_exclusion_ne noNull),
    readAll_texts first others cut deep]
  rfl

theorem holds_exclusion (nonempty : Term.terms content ≠ [])
    (document : Document) :
    (exclusionQuery isSpaced filter content).holds document = true ↔
      ∃ column,
        (if filter.keepsMinus isSpaced then column ∉ filter.columns
          else column ∈ filter.columns) ∧
        document.HasPhrase column content := by
  -- A sign of its own has no terms, so only the quoted text counts.
  have void : Term.terms ['-'] = [] := by decide +kernel
  have quoted : Term.terms (dropSigns false content) ≠ [] := by
    rwa [terms_dropSigns]
  have found :
      (∃ column ∈ FilteredText.columns
          ⟨filter.keepsMinus isSpaced, filter, dropSigns false content⟩,
        document.HasPhrase column (dropSigns false content)) ↔
      ∃ column,
        (if filter.keepsMinus isSpaced then column ∉ filter.columns
          else column ∈ filter.columns) ∧
        document.HasPhrase column content := by
    simp only [FilteredText.mem_columns, Document.HasPhrase, terms_dropSigns]
  rw [exclusionQuery, FilteredText.holds_texts, ← found]
  cases kept : filter.keepsMinus isSpaced <;>
    simp [exclusionTexts, kept, void, quoted]

end

/--
A search for a quoted text behind a filter with a minus sign finds the documents
that have the text outside of the columns of the filter only if the sign is
glued to a single name.  Otherwise it finds those that have the text inside.
-/
theorem search_exclusion (isSpaced : Bool) (filter : WrittenFilter)
    {content : List Char} (noNull : ∀ c ∈ content, c.toNat ≠ 0)
    (nonempty : Term.terms content ≠ []) :
    ∃ request,
      (∀ document,
        request.finds document = true ↔
          ∃ column,
            (if filter.keepsMinus isSpaced then column ∉ filter.columns
              else column ∈ filter.columns) ∧
            document.HasPhrase column content) ∧
      ∀ (store : Store) (search : Search),
        search.query = String.ofList (exclusionText isSpaced filter content) →
        0 < search.limit → search.limit ≤ maxLimit →
        store.documents.isSome = true →
        store.search [] search =
          .ok (((store.hits request search.requestedLevel).take
            search.limit.toNat).map (·.entry)) := by
  refine ⟨.query (exclusionQuery isSpaced filter content),
    holds_exclusion nonempty, ?_⟩
  intro store search written positive small present
  have reads : Request.ofExpression {} (scopeChars defaultColumn.toList
      (exclusionText isSpaced filter content)) = _ :=
    ofExpression_exclusion noNull (by decide)
  have asked : requestOf search.query =
      .ok (.query (exclusionQuery isSpaced filter content)) := by
    rw [requestOf, written, String.toList_ofList, reads]
  have absent : store.documents.isNone = false := by simpa using present
  rw [Store.search_without_window, Store.fetch_of_request positive small
    (scopeChars_ne_nil asked) absent asked]
  rfl

/-! ## Signs in front of the level -/

namespace LevelExcluded

/-- A document with a level that is no term of its message. -/
def inside : Document :=
  ⟨"n1", "INFO", "hello", "20200101000000"⟩

/-- A document with that level in its message only. -/
def outside : Document :=
  ⟨"n1", "WARN", "level INFO expected", "20200102000000"⟩

def store : Store where
  documents := some [inside, outside]

def content : List Char := "INFO".toList

end LevelExcluded

open LevelExcluded in
/-- Glued to the name, the sign excludes the level. -/
theorem search_exclusion_level :
    (∀ c ∈ content, c.toNat ≠ 0) ∧ Term.terms content ≠ [] ∧
      exclusionText false (.one .level) content = "-level : \"INFO\"".toList ∧
      store.search [] { query := "-level : \"INFO\"" } =
        .ok [outside.entry] := by
  have noNull : ∀ c ∈ content, c.toNat ≠ 0 := by decide
  have nonempty : Term.terms content ≠ [] := by decide +kernel
  have written : exclusionText false (.one .level) content =
      "-level : \"INFO\"".toList := by decide
  obtain ⟨request, finds, shows⟩ :=
    search_exclusion false (.one .level) noNull nonempty
  have found : request.finds outside = true :=
    (finds outside).mpr ⟨.message, by decide +kernel⟩
  have hidden : request.finds inside = false := by
    have nowhere : ∀ column : Column, column ∉ [Column.level] →
        ¬ inside.HasPhrase column content := by
      intro column
      cases column <;> decide +kernel
    rw [Bool.eq_false_iff, ne_eq, finds]
    rintro ⟨column, other, phrase⟩
    exact nowhere column other phrase
  have hits : store.hits request none = [outside] := by
    have filtered : (store.documentList.filter fun document =>
        request.finds document && Option.all (· == document.level) none) =
        [outside] := by
      simp [store, Store.documentList, found, hidden]
    rw [← filtered]
    exact Store.hits_of_pairwise (by rw [filtered]; simp)
  refine ⟨noNull, nonempty, written, ?_⟩
  rw [shows store _ (by rw [written]; rfl) (by decide) (by decide) rfl,
    Search.requestedLevel, Option.map_none, hits]
  rfl

/-- Behind a blank, the sign is no part of the filter, and the excluded column
is the one that is searched. -/
theorem exists_exclusion_found_inside :
    ∃ (filter : WrittenFilter) (content : List Char) (document : Document),
      Term.terms content ≠ [] ∧
      (∀ column ∉ filter.columns, ¬ document.HasPhrase column content) ∧
      ({ documents := some [document] } : Store).search []
          { query := String.ofList (exclusionText true filter content) } =
        .ok [document.entry] := by
  refine ⟨.one .level, LevelExcluded.content, LevelExcluded.inside,
    by decide +kernel, ?_, ?_⟩
  · intro column
    cases column <;> decide +kernel
  · exact eq_ok_of_toOption (by decide +kernel)

end ClusterLog.Query
