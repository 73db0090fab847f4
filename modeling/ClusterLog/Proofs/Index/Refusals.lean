import ClusterLog.Proofs.Index.OwnMessages
import ClusterLog.Proofs.Query.Faults

/-!
# Refused searches

A search of an index that has a place for documents shows a list of them or
refuses its query as malformed, with three exceptions: an expression that begins
with a star is taken for a directive, one with a comma in front of a text that is
no number has a distance that cannot be read, and one with very many operators
may nest too many of them.  What the index says about these is passed on as a
failure of its own.
-/

namespace ClusterLog

open Query Text

/-- The expression that a query becomes. -/
def Search.expression (search : Search) : List Char :=
  scopeChars defaultColumn.toList search.query.toList

/-- How a search ends. -/
inductive Search.Outcome (search : Search) :
    Except Failure (List Entry) → Prop
  | shows (entries : List Entry) : Outcome search (.ok entries)
  | empty : Outcome search (.error .emptyQuery)
  | malformed (reason : String) :
      Outcome search (.error (.invalidQuery search.query reason))
  | escapes {fault : Fault} (escapes : fault.Escapes {} search.expression)
      (unrecognised : Fault.isAboutSyntax fault.message = false) :
      Outcome search (.error (.indexFailure fault.message))

variable {store : Store} {search : Search}

/-- What becomes of the fault of an expression. -/
theorem Search.outcome_of_fault {fault : Fault}
    (comes : fault.isMalformed = true ∨ fault.Escapes {} search.expression) :
    search.Outcome (.error (failureOf search.query fault)) := by
  unfold failureOf
  cases recognised : Fault.isAboutSyntax fault.message with
  | true => exact .malformed fault.message
  | false =>
      rcases comes with malformed | escapes
      · rw [Fault.isAboutSyntax_of_isMalformed malformed] at recognised
        cases recognised
      · exact .escapes escapes recognised

/-- What is asked of the index is known, or the expression has a fault. -/
theorem requestOf_cases (search : Search) :
    (∃ request, requestOf search.query = .ok request) ∨
    ∃ fault,
      requestOf search.query = .error (failureOf search.query fault) ∧
      (fault.isMalformed = true ∨ fault.Escapes {} search.expression) := by
  have reads := satisfies_ofExpression {} search.expression
  unfold requestOf
  rw [← Search.expression]
  cases result : Request.ofExpression {} search.expression with
  | ok request => exact Or.inl ⟨request, rfl⟩
  | error fault =>
      rw [result] at reads
      exact Or.inr ⟨fault, rfl, reads⟩

/-- A query whose expression has a fault ends the search with it. -/
theorem Store.search_of_fault {failure : Failure}
    (present : store.documents.isNone = false)
    (positive : 0 < search.limit) (small : search.limit ≤ maxLimit)
    (fails : requestOf search.query = .error failure) :
    store.search [] search = .error .emptyQuery ∨
      store.search [] search = .error failure := by
  have notLow : ¬ search.limit ≤ 0 := by omega
  have notHigh : ¬ maxLimit < search.limit := by omega
  rw [Store.search, Store.fetch, if_neg notLow, present, if_neg notHigh, fails]
  cases (scopeChars defaultColumn.toList search.query.toList).isEmpty with
  | true => exact Or.inl rfl
  | false => exact Or.inr rfl

/--
Whatever the query is, a search without a window ends in one of four ways: with
a list, with the complaint that nothing is asked for, with the complaint that the
query is malformed, or with a failure that only three kinds of expressions give
rise to.
-/
theorem Store.search_outcome (present : store.documents.isNone = false)
    (positive : 0 < search.limit) (small : search.limit ≤ maxLimit) :
    search.Outcome (store.search [] search) := by
  rcases requestOf_cases search with
    ⟨request, asked⟩ | ⟨fault, fails, comes⟩
  · rw [Store.search_of_request asked present positive small]
    exact .shows _
  · rcases Store.search_of_fault present positive small fails with
      ends | ends
    · rw [ends]
      exact .empty
    · rw [ends]
      exact Search.outcome_of_fault comes

/-! ## Queries that are recognised, and queries that are not -/

/-- A parenthesis that is never closed has nothing that could give rise to
another failure. -/
theorem Store.search_outcome_unclosed :
    ∃ failure,
      ({ documents := some [] } : Store).search []
          { query := "(", limit := 5000 } = .error failure ∧
      ∀ reason, failure ≠ .indexFailure reason := by
  let search : Search := { query := "(", limit := 5000 }
  have outcome := @Store.search_outcome { documents := some [] } search rfl
    (by decide) (by decide)
  have fails : (({ documents := some [] } : Store).search []
      search).toOption = none := by
    decide +kernel
  have parts : (lexemes search.expression).1 = [.mark '('] := by
    decide +kernel
  rcases exists_error_of_toOption fails with ⟨failure, ends⟩
  refine ⟨failure, ends, ?_⟩
  rw [ends] at outcome
  intro reason same
  cases outcome with
  | empty => cases same
  | malformed => cases same
  | escapes escapes =>
      cases escapes with
      | directive star =>
          have noStar : search.expression.head? ≠ some '*' := by
            decide +kernel
          rw [star] at noStar
          exact absurd rfl noStar
      | distance behindComma =>
          have short := behindComma.length_le
          rw [parts] at short
          exact absurd short (by simp)
      | height many =>
          rw [parts] at many
          exact absurd many (by decide)

/-- A directive that nobody knows and a distance that is no number are failures
of the index, under the default limit and without a level. -/
theorem Store.exists_unrecognised_refusal :
    ({ documents := some [] } : Store).search [] { query := "*x" } =
        .error (.indexFailure "unknown special query: message") ∧
      ({ documents := some [] } : Store).search []
          { query := "NEAR(a b, x)" } =
        .error (.indexFailure "expected integer, got \"x\"") := by
  decide +kernel

end ClusterLog
