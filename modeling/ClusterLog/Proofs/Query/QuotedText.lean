import ClusterLog.Index.Search
import ClusterLog.Proofs.Query.FilteredTexts
import ClusterLog.Proofs.Query.ScopedMeaning

/-!
# Quoted texts as queries

A query that is one text in quotes asks for the phrase of the text in the
default column, whatever characters the text holds.  The plus signs that are
dropped from it as signs of required terms separate no terms.
-/

namespace ClusterLog.Query

open Text

/-- The pieces of a quoted text behind a filter. -/
def WrittenFilter.piecesOver (filter : WrittenFilter) (content : List Char) :
    List Piece :=
  filter.pieces ++ [.quoted false content]

variable {filter : WrittenFilter} {content : List Char}

theorem WrittenFilter.isSound_of_mem_piecesOver
    (noNull : ∀ c ∈ content, c.toNat ≠ 0) {piece : Piece}
    (member : piece ∈ filter.piecesOver content) :
    piece.IsSound := by
  rcases List.mem_append.mp member with front | text
  · have optional : piece ∈ WrittenFilter.optionalPieces (some filter) := front
    exact WrittenFilter.isSound_of_mem optional
  · obtain rfl := List.mem_singleton.mp text
    exact noNull

theorem lexemes_piecesOver (noNull : ∀ c ∈ content, c.toNat ≠ 0) :
    lexemes ([' '].intercalate ((filter.piecesOver content).map (·.part))) =
      (lexemesOf filter.pieces ++ [.text (inQuotes (dropSigns false content))],
        none) := by
  rw [lexemes_parts fun _ => WrittenFilter.isSound_of_mem_piecesOver noNull,
    WrittenFilter.piecesOver, List.flatMap_append]
  rfl

/-- A text in quotes as a written query. -/
def quotedQuery (content : List Char) (noNull : ∀ c ∈ content, c.toNat ≠ 0) :
    WrittenQuery 0 :=
  .items ⟨none, .phrase false ⟨false, ⟨.quoted content noNull, false⟩, []⟩⟩ []

theorem text_quotedQuery (noNull : ∀ c ∈ content, c.toNat ≠ 0) :
    (quotedQuery content noNull).text = inQuotes content := by
  have pieces : (quotedQuery content noNull).pieces = [.quoted false content] :=
    rfl
  rw [WrittenQuery.text, pieces]
  simp [Piece.written, Piece.sign]

theorem pieces_restricted_quotedQuery (noNull : ∀ c ∈ content, c.toNat ≠ 0) :
    ((quotedQuery content noNull).restricted .message false).pieces =
      (WrittenFilter.one .message).piecesOver content :=
  rfl

/-- A text in quotes gets a filter for the default column. -/
theorem scopeChars_inQuotes (noNull : ∀ c ∈ content, c.toNat ≠ 0) :
    scopeChars defaultColumn.toList (inQuotes content) =
      [' '].intercalate
        (((WrittenFilter.one .message).piecesOver content).map (·.part)) := by
  rw [← pieces_restricted_quotedQuery noNull, ← text_quotedQuery noNull]
  exact scopeChars_text .message _

theorem head?_scopeChars_inQuotes (noNull : ∀ c ∈ content, c.toNat ≠ 0) :
    (scopeChars defaultColumn.toList (inQuotes content)).head? ≠ some '*' := by
  rw [scopeChars_inQuotes noNull, ← pieces_restricted_quotedQuery noNull]
  exact head?_parts_ne _

/-- What is left of a text in quotes, behind the filter that it gets. -/
def quotedText (content : List Char) : FilteredText :=
  ⟨false, .one .message, dropSigns false content⟩

/-- What a text in quotes asks for. -/
def quotedRequest (content : List Char) : Request :=
  .query (.groups [(quotedText content).meaning])

/-- A text in quotes is read, whatever it holds. -/
theorem requestOf_inQuotes (noNull : ∀ c ∈ content, c.toNat ≠ 0) :
    requestOf (String.ofList (inQuotes content)) =
      .ok (quotedRequest content) := by
  have cut : lexemes (scopeChars defaultColumn.toList (inQuotes content)) =
      ([quotedText content].flatMap (·.lexemes), none) := by
    rw [scopeChars_inQuotes noNull, lexemes_piecesOver noNull]
    rfl
  have reads : Request.ofExpression {}
      (scopeChars defaultColumn.toList (inQuotes content)) =
        .ok (quotedRequest content) := by
    rw [ofExpression_of_head (head?_scopeChars_inQuotes noNull),
      readAll_texts (quotedText content) [] cut (by decide)]
    rfl
  rw [requestOf, String.toList_ofList, reads]

/-- A text in quotes finds the documents with its phrase in the message. -/
theorem finds_quotedRequest (document : Document) :
    (quotedRequest content).finds document = true ↔
      Term.terms content ≠ [] ∧ document.HasPhrase .message content := by
  have holds := FilteredText.holds_texts [quotedText content] document
  have terms : Term.terms (quotedText content).content = Term.terms content :=
    terms_dropSigns content
  have only : (quotedText content).columns = [.message] := rfl
  simp only [List.mem_singleton, exists_eq_left, forall_eq, terms, only,
    Document.HasPhrase, List.map_singleton] at holds ⊢
  rw [quotedRequest, Request.finds, holds]
  constructor
  · rintro ⟨nonempty, found⟩
    exact ⟨nonempty, found nonempty⟩
  · rintro ⟨nonempty, found⟩
    exact ⟨nonempty, fun _ => found⟩

end ClusterLog.Query
