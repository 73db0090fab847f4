import ClusterLog.Proofs.Layout.Pieces
import ClusterLog.Proofs.Layout.Tokens
import ClusterLog.Proofs.Pattern.Completeness
import ClusterLog.Proofs.Pattern.Source

/-!
# Compiled layouts

The written form of the pattern that a layout is compiled to is a pattern, and
it is the pattern itself.  Its groups are the fields of the layout at their first
places, numbered in order; all other pieces keep nothing.
-/

namespace ClusterLog

/-! ## Groups -/

/-- The groups of a pattern in the order in which they are opened. -/
def Pattern.groups : Pattern → List (Nat × Pattern)
  | .seq first second => first.groups ++ second.groups
  | .either first second => first.groups ++ second.groups
  | .loop _ _ _ body => body.groups
  | .capture ordinal body => (ordinal, body) :: body.groups
  | _ => []

theorem Pattern.groups_sequence (patterns : List Pattern) :
    (Pattern.sequence patterns).groups = patterns.flatMap (·.groups) := by
  induction patterns with
  | nil => rfl
  | cons pattern patterns ih => exact congrArg _ ih

namespace Layout

open Text Pattern

/-- The group that keeps a field. -/
def groupOf (place : Field × Nat) : Nat × Pattern :=
  (place.2, .sequence [place.1.body])

theorem Piece.groups_patterns (piece : Piece) :
    piece.patterns.flatMap (·.groups) = piece.position?.toList.map groupOf := by
  cases piece with
  | first field ordinal => cases field <;> rfl
  | again field => cases field <;> rfl
  | thread | other | space | literal => rfl

theorem Piece.isLoopFree (piece : Piece) :
    ∀ pattern ∈ piece.patterns, pattern.IsLoopFree := by
  cases piece with
  | first field ordinal =>
      cases field <;> simp [patterns, Field.tail, Field.body, IsLoopFree,
        Pattern.sequence, Pattern.many, Pattern.atLeastOne, Pattern.char]
  | again field =>
      cases field <;> simp [patterns, Field.tail, Field.body, IsLoopFree,
        Pattern.sequence, Pattern.many, Pattern.atLeastOne, Pattern.char]
  | thread | other | space | literal =>
      simp [patterns, IsLoopFree, Pattern.many, Pattern.few, Pattern.char]

/-! ## Written pieces -/

section Written

variable {groups total ordinal : Nat} {rest : List Char} {items : List Pattern}

theorem writes_tail (field : Field)
    (others : Writes .any groups rest items total) :
    Writes .any groups (field.tailSource.toList ++ rest) (field.tail ++ items)
      total := by
  cases field with
  | level => exact others
  | message => exact others
  | timestamp =>
      have digits : Writes .any groups ('\\' :: 'd' :: '*' :: rest) _ total :=
        others.many rfl
      exact digits.literal ','

/-- A group around the text of a field, behind whatever opens it, is read as one
item. -/
theorem writes_group (field : Field) (opening : List Char) {inner : Nat}
    {item : Pattern} (others : Writes .any inner rest items total)
    (begins : ∀ depth behind,
      readAtom? .any (depth + 8) groups
          ('(' :: (opening ++ field.bodySource.toList ++ ')' :: behind)) =
        some (item, inner, behind)) :
    Writes .any groups
      ('(' :: (opening ++ field.bodySource.toList ++
        ')' :: (field.tailSource.toList ++ rest)))
      (item :: (field.tail ++ items)) total := by
  have tail := writes_tail field others
  refine .cons (by decide) (by decide) rfl ?_
    (readSuffix?_none tail.single _) (by simp; omega) tail
  intro depth enough
  obtain ⟨depth, rfl⟩ : ∃ less, depth = less + 7 := ⟨depth - 7, by
    cases field <;> simp [Field.bodySource] at enough <;> omega⟩
  exact begins depth _

/-- A group that keeps the text of a field. -/
theorem writes_first (field : Field)
    (others : Writes .any (groups + 1) rest items total) :
    Writes .any groups ((Piece.first field (groups + 1)).source ++ rest)
      ((Piece.first field (groups + 1)).patterns ++ items) total := by
  have group := @writes_group groups _ _ _ field [] _
    (.capture (groups + 1) (.sequence [field.body])) others
    fun depth behind => by cases field <;> rfl
  simpa [Piece.source, Piece.patterns] using group

/-- A group that keeps nothing. -/
theorem writes_again (field : Field)
    (others : Writes .any groups rest items total) :
    Writes .any groups ((Piece.again field).source ++ rest)
      ((Piece.again field).patterns ++ items) total := by
  have group := @writes_group groups _ _ _ field ['?', ':'] _
    (.sequence [field.body]) others fun depth behind => by cases field <;> rfl
  simpa [Piece.source, Piece.patterns] using group

end Written

theorem writes_piecesFrom (seen : List Field) (tokens : List Token) :
    Writes .any seen.length ((piecesFrom seen tokens).flatMap (·.source))
      ((piecesFrom seen tokens).flatMap (·.patterns))
      (seen.length + ((piecesFrom seen tokens).filterMap (·.position?)).length) := by
  induction tokens generalizing seen with
  | nil => exact .nil _
  | cons token tokens ih =>
      cases token with
      | field field =>
          rw [piecesFrom]
          split
          · exact writes_again field (ih seen)
          · have others := ih (field :: seen)
            rw [List.length_cons, Nat.add_assoc, Nat.add_comm 1] at others
            exact writes_first field others
      | thread => exact (ih seen).bracket.few.literal '['
      | nothing => exact ih seen
      | other => exact (ih seen).few
      | space => exact (ih seen).many rfl
      | literal c => exact (ih seen).literal c

/-! ## Positions -/

/-- The fields that are numbered are the ones that were not seen, each at its
first place. -/
theorem fields_numbered (seen fields : List Field) :
    (numbered seen fields).map Prod.fst =
      (fields.filter (· ∉ seen)).eraseDups := by
  induction fields generalizing seen with
  | nil => rfl
  | cons field fields ih =>
      rw [numbered]
      split
      · rename_i known
        rw [ih, List.filter_cons_of_neg (by simpa using known)]
      · rename_i fresh
        rw [List.filter_cons_of_pos (by simpa using fresh), List.eraseDups_cons,
          List.map_cons, ih, List.filter_filter]
        congr 3
        funext other
        by_cases same : other = field <;> simp [same]

/-! ## Layouts without conversions -/

/-- A text is a layout with a run of blanks, possibly none, for each space. -/
inductive IsSpread : List Char → List Char → Prop
  | nil : IsSpread [] []
  | space {blanks layout text : List Char} (blank : ∀ c ∈ blanks, isBlank c = true)
      (others : IsSpread layout text) :
      IsSpread (' ' :: layout) (blanks ++ text)
  | literal {c : Char} {layout text : List Char} (nonspace : c ≠ ' ')
      (others : IsSpread layout text) : IsSpread (c :: layout) (c :: text)

theorem reads_plain_iff {total : Nat} {layout text : List Char}
    {captures kept : Captures} :
    (Pattern.sequence ((piecesFrom [] (layout.map Token.ofChar)).flatMap
        (·.patterns))).Reads total text captures [] kept ↔
      IsSpread layout text ∧ kept = captures := by
  induction layout generalizing text captures with
  | nil =>
      constructor
      · rintro ⟨⟩
        exact ⟨.nil, rfl⟩
      · rintro ⟨⟨⟩, rfl⟩
        exact .empty
  | cons c layout ih =>
      rw [List.map_cons, Token.ofChar]
      split
      · rename_i same
        obtain rfl := beq_iff_eq.mp same
        constructor
        · rintro ⟨⟩
          rename_i begins ends
          cases begins with
          | run blank =>
              rcases ih.mp ends with ⟨spread, rfl⟩
              exact ⟨.space blank spread, rfl⟩
        · rintro ⟨spread, rfl⟩
          cases spread with
          | space blank others =>
              exact .seq (.run blank (Nat.zero_le _) (by simp))
                (ih.mpr ⟨others, rfl⟩)
          | literal nonspace => exact absurd rfl nonspace
      · rename_i other
        have nonspace : c ≠ ' ' := fun same => other (beq_iff_eq.mpr same)
        constructor
        · rintro ⟨⟩
          rename_i begins ends
          cases begins with
          | one holds =>
              rw [CharClass.holds_single, decide_eq_true_eq] at holds
              subst holds
              rcases ih.mp ends with ⟨spread, rfl⟩
              exact ⟨.literal nonspace spread, rfl⟩
        · rintro ⟨spread, rfl⟩
          cases spread with
          | space => exact absurd rfl nonspace
          | literal _ others =>
              exact .seq (.one (by simp)) (ih.mpr ⟨others, rfl⟩)

/-! ## Layouts -/

theorem compile_of_ne {layout : String} (other : layout ≠ stock) :
    compile layout = .ofPieces (piecesFrom [] (tokens layout.toList)) :=
  if_neg (by simpa using other)

/-- The pattern of a layout without percent signs. -/
theorem matchWhole?_plain_iff {layout : String} (plain : '%' ∉ layout.toList)
    (text : List Char) :
    ((compile layout).pattern.matchWhole? text).isSome = true ↔
      IsSpread layout.toList text := by
  have other : layout ≠ stock := by
    rintro rfl
    exact plain (by decide)
  rw [compile_of_ne other, tokens_of_noPercent plain]
  have pieces : ∀ pattern ∈ (piecesFrom [] (layout.toList.map Token.ofChar)).flatMap
      (·.patterns), pattern.IsLoopFree := by
    intro pattern member
    rcases List.mem_flatMap.mp member with ⟨piece, -, inside⟩
    exact piece.isLoopFree pattern inside
  have whole := @isSome_matchWhole?_iff _ text (isLoopFree_sequence pieces)
  refine whole.trans ⟨?_, fun spread => ⟨[], reads_plain_iff.mpr ⟨spread, rfl⟩⟩⟩
  rintro ⟨kept, reads⟩
  exact (reads_plain_iff.mp reads).1

/-- Each layout is read to its end, token by token, and compiled to a pattern
that its written form is read as again.  The fields of the layout have their
ordinals from one on, in the order of their first places, and the group with an
ordinal is that of its field.  Without conversions the pattern matches the layout
itself, with any run of blanks for each space. -/
theorem compile_sound (layout : String) :
    (∃ places : List (List Char × Token),
      places.flatMap Prod.fst = layout.toList ∧
      places.map Prod.snd = tokens layout.toList ∧
      ∀ place ∈ places, place.2.IsWritten place.1) ∧
    Pattern.read? .any (compile layout).source =
      some ((compile layout).pattern, (compile layout).groups) ∧
    (compile layout).positions.map Prod.fst =
      ((tokens layout.toList).filterMap (·.field?)).eraseDups ∧
    (compile layout).positions.map Prod.snd =
      List.range' 1 (compile layout).groups ∧
    (compile layout).pattern.groups =
      (compile layout).positions.map groupOf ∧
    ('%' ∉ layout.toList → ∀ text,
      ((compile layout).pattern.matchWhole? text).isSome = true ↔
        IsSpread layout.toList text) := by
  refine ⟨exists_written_of_tokens layout.toList, ?_⟩
  by_cases same : layout = stock
  · subst same
    have stocked : compile stock = stockGrammar := if_pos (beq_self_eq_true stock)
    rw [stocked]
    refine ⟨?_, ?_, rfl, rfl, fun plain => absurd (by decide) plain⟩
    · decide +kernel
    · decide +kernel
  · have plain := @matchWhole?_plain_iff layout
    rw [compile_of_ne same] at plain ⊢
    have writes := writes_piecesFrom [] (tokens layout.toList)
    rw [List.length_nil, Nat.zero_add] at writes
    have positions := positions_piecesFrom [] (tokens layout.toList)
    refine ⟨writes.read?_eq, ?_, ?_, ?_, plain⟩
    · rw [Grammar.ofPieces, positions, fields_numbered]
      simp
    · rw [Grammar.groups, Grammar.ofPieces, positions]
      exact ordinals_numbered [] _
    · rw [Grammar.ofPieces, Pattern.groups_sequence, List.flatMap_assoc,
        List.filterMap_eq_flatMap_toList]
      simp [Piece.groups_patterns, List.map_flatMap]

/-- A layout of characters that mean something else in a pattern. -/
theorem compile_sound_brackets :
    '%' ∉ "[a] (b".toList ∧
    ((compile "[a] (b").pattern.matchWhole? "[a] \t(b".toList).isSome = true := by
  have plain : '%' ∉ "[a] (b".toList := by decide
  have gap : ∀ c ∈ [' ', '\t'], isBlank c = true := by decide
  have behind : IsSpread ['(', 'b'] ['(', 'b'] :=
    .literal (by decide) (.literal (by decide) .nil)
  have spread : IsSpread "[a] (b".toList "[a] \t(b".toList :=
    .literal (by decide) (.literal (by decide) (.literal (by decide)
      (.space gap behind)))
  rcases compile_sound "[a] (b" with ⟨-, -, -, -, -, fits⟩
  exact ⟨plain, (fits plain _).mpr spread⟩

end Layout

end ClusterLog
