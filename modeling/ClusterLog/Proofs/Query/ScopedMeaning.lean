import ClusterLog.Proofs.Query.Reading
import ClusterLog.Proofs.Query.Scope
import ClusterLog.Query.Request

/-!
# The meaning of scoped queries

A search writes the scope of plain terms into a query before the index reads it.
The index then looks for what the written query means with everything that no
filter covers restricted to the default column, and for nothing else.
-/

namespace ClusterLog.Query

open Text

/-! ## Directives -/

theorem head?_part_ne {piece : Piece} (sound : piece.IsSound)
    (noStar : piece ≠ .mark '*') (rest : List Char) :
    (piece.part ++ rest).head? ≠ some '*' := by
  cases piece with
  | mark c => simpa using noStar
  | word isRequired characters =>
      rcases sound with ⟨nonempty, inWord⟩
      rcases List.exists_cons_of_ne_nil nonempty with ⟨first, others, rfl⟩
      have differs : first ≠ '*' := by
        rintro rfl
        exact absurd (inWord '*' (by simp)).1 (by decide)
      cases plain : (first :: others).all isWord with
      | true =>
          rw [Piece.part_word isRequired plain]
          simpa using differs
      | false =>
          simp [Piece.part, groupText, Token.isMark, phraseText, plain]
  | quoted isRequired content =>
      simp [Piece.part, groupText, Token.isMark, phraseText, Piece.token,
        inQuotes]
  | braced isPadded first others => simp [Piece.part, Piece.written]

theorem WrittenItem.exists_pieces (item : WrittenItem) :
    ∃ piece pieces, item.pieces = piece :: pieces ∧ piece ≠ .mark '*' := by
  rcases item with ⟨filter, group⟩
  cases filter with
  | some filter => cases filter <;> exact ⟨_, _, rfl, by simp⟩
  | none =>
      cases group with
      | phrase isFirst only =>
          cases isFirst with
          | true => exact ⟨_, _, rfl, by simp⟩
          | false =>
              rcases only with ⟨isRequired, ⟨text, hasStar⟩, others⟩
              cases text <;> exact ⟨_, _, rfl, by simp [WrittenText.piece]⟩
      | near first others distance => exact ⟨_, _, rfl, by simp⟩

theorem WrittenQuery.exists_pieces {strength : Nat}
    (query : WrittenQuery strength) :
    ∃ piece pieces, query.pieces = piece :: pieces ∧ piece ≠ .mark '*' := by
  induction query with
  | items first others =>
      rcases first.exists_pieces with ⟨piece, pieces, split, noStar⟩
      exact ⟨piece, _, by rw [WrittenQuery.pieces, split]; rfl, noStar⟩
  | parenthesised filter body ih =>
      cases filter with
      | none => exact ⟨_, _, rfl, by simp⟩
      | some filter => cases filter <;> exact ⟨_, _, rfl, by simp⟩
  | combined operator strong left right ihLeft ihRight =>
      rcases ihLeft with ⟨piece, pieces, split, noStar⟩
      exact ⟨piece, _, by rw [WrittenQuery.pieces, split]; rfl, noStar⟩

/-- A scoped query is no directive. -/
theorem head?_parts_ne {strength : Nat} (query : WrittenQuery strength) :
    ([' '].intercalate (query.pieces.map (·.part))).head? ≠ some '*' := by
  rcases query.exists_pieces with ⟨piece, pieces, split, noStar⟩
  have sound : piece.IsSound :=
    WrittenQuery.isSound_of_mem (split ▸ List.mem_cons_self)
  rw [split, List.map_cons, intercalate_cons]
  exact head?_part_ne sound noStar _

theorem ofExpression_of_head {expression : List Char}
    (noStar : expression.head? ≠ some '*') (limits : Limits) :
    Request.ofExpression limits expression =
      (readAll limits expression).map .query := by
  unfold Request.ofExpression
  split
  · simp at noStar
  · rfl

/-! ## Searches -/

/--
The index finds a document for the scoped text of a written query exactly if the
query, with every phrase and every group of near phrases that no filter covers
restricted to the default column, holds for the document.  Only its size can
keep the query from being read, and it does not under limits that are large
enough.
-/
theorem scoped_query_finds (query : WrittenQuery 0) :
    ∃ request,
      (∀ document,
        request.finds document =
          (query.restricted .message false).meaning.holds document) ∧
      (∀ limits,
        Request.ofExpression limits
            (scopeChars defaultColumn.toList query.text) = .ok request ∨
          ∃ fault,
            Request.ofExpression limits
                (scopeChars defaultColumn.toList query.text) = .error fault ∧
              fault.IsAboutSize) ∧
      ∃ bound, ∀ limits,
        bound ≤ limits.depth → bound ≤ limits.height →
        Request.ofExpression limits
          (scopeChars defaultColumn.toList query.text) = .ok request := by
  have text :
      scopeChars defaultColumn.toList query.text =
        [' '].intercalate
          ((query.restricted .message false).pieces.map (·.part)) :=
    scopeChars_text .message query
  have noDirective := ofExpression_of_head
    (head?_parts_ne (query.restricted .message false))
  have reads := reads_all (query.restricted .message false)
  refine ⟨.query (query.restricted .message false).meaning, fun _ => rfl, ?_, ?_⟩
  · intro limits
    rw [text, noDirective]
    rcases reads.outcome limits with found | ⟨fault, found, size⟩
    · exact Or.inl (by rw [found]; rfl)
    · exact Or.inr ⟨fault, by rw [found]; rfl, size⟩
  · rcases reads.enough with ⟨bound, found⟩
    refine ⟨bound, ?_⟩
    intro limits deep high
    rw [text, noDirective, found limits deep high]
    rfl

example :
    let word : Word :=
      ⟨"a.b".toList, by decide, by decide, by decide, by decide⟩
    let plain : WrittenItem :=
      ⟨none, .phrase true ⟨true, ⟨.word word, true⟩, []⟩⟩
    let filtered : WrittenItem :=
      ⟨some (.one .level), .phrase false ⟨false, ⟨.word word, false⟩, []⟩⟩
    let query : WrittenQuery 0 := .items plain [filtered]
    query.text = "^ +a.b * level : a.b".toList ∧
      scopeChars defaultColumn.toList query.text =
        "message : ^ \"a.b\" * level : \"a.b\"".toList := by
  decide

end ClusterLog.Query
