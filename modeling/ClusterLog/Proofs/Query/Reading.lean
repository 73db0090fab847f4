import ClusterLog.Proofs.Query.Lexemes

/-!
# Reading written queries

The reader of expressions finds what a written query means, unless the query is
too large for its limits.  The sizes of the limits do not matter otherwise, so a
reading is stated for all of them at once.
-/

namespace ClusterLog.Query

open Text

/-! ## Readings under limits -/

/-- Whether a fault is about the size of an expression. -/
def Fault.IsAboutSize : Fault → Prop
  | tooDeep | tooHigh _ => True
  | _ => False

/-- Under any limits a value is read or the limits are too small for it, and
under large ones it is read. -/
structure Reads {Value : Type}
    (read : Limits → Except Fault Value) (value : Value) : Prop where
  outcome : ∀ limits,
    read limits = .ok value ∨
      ∃ fault, read limits = .error fault ∧ fault.IsAboutSize
  enough : ∃ bound, ∀ limits,
    bound ≤ limits.depth → bound ≤ limits.height → read limits = .ok value

namespace Reads

variable {Value Middle : Type}

theorem ok (value : Value) : Reads (fun _ => .ok value) value where
  outcome _ := Or.inl rfl
  enough := ⟨0, fun _ _ _ => rfl⟩

/-- What is read after something else. -/
theorem bind
    {first : Limits → Except Fault Middle}
    {next : Limits → Middle → Except Fault Value}
    {middle : Middle} {value : Value}
    (readsFirst : Reads first middle)
    (readsNext : Reads (fun limits => next limits middle) value) :
    Reads (fun limits => first limits >>= next limits) value where
  outcome limits := by
    rcases readsFirst.outcome limits with found | ⟨fault, found, size⟩
    · simp only [found]
      exact readsNext.outcome limits
    · exact Or.inr ⟨fault, by simp only [found]; rfl, size⟩
  enough := by
    rcases readsFirst.enough with ⟨bound, found⟩
    rcases readsNext.enough with ⟨boundNext, foundNext⟩
    refine ⟨max bound boundNext, ?_⟩
    intro limits deep high
    simp only [found limits (by omega) (by omega)]
    exact foundNext limits (by omega) (by omega)

/-- What comes before a reading that always succeeds. -/
theorem bind_ok
    {next : Limits → Middle → Except Fault Value}
    {middle : Middle} {value : Value}
    (readsNext : Reads (fun limits => next limits middle) value) :
    Reads (fun limits => (.ok middle : Except Fault Middle) >>= next limits)
      value :=
  readsNext

end Reads

/-- An expression whose lexemes all are there. -/
def whole (limits : Limits) : Source where
  limits

theorem reads_keep (depth : Nat) :
    Reads (fun limits => (whole limits).keep depth) () where
  outcome limits := by
    by_cases fits : depth ≤ limits.depth
    · exact Or.inl (if_pos fits)
    · exact Or.inr ⟨.tooDeep, if_neg fits, trivial⟩
  enough := ⟨depth, fun _ deep _ => if_pos deep⟩

theorem reads_lookAhead (rest : Rest) :
    Reads (fun limits => (whole limits).lookAhead rest) () :=
  .ok ()

theorem reads_combine (operator : Operator) (left right : Expression) :
    Reads (fun limits => combine (whole limits) operator left right)
      (.combined operator left right) where
  outcome limits := by
    by_cases fits :
        (Expression.combined operator left right).height ≤ limits.height
    · exact Or.inl (if_pos fits)
    · exact Or.inr ⟨.tooHigh limits.height, if_neg fits, trivial⟩
  enough := ⟨_, fun _ _ high => if_pos high⟩

/-! ## Phrases -/

/-- The lexemes of pieces. -/
def lexemesOf (pieces : List Piece) : List Lexeme :=
  pieces.flatMap (·.lexemes)

@[simp]
theorem lexemesOf_append (pieces others : List Piece) :
    lexemesOf (pieces ++ others) = lexemesOf pieces ++ lexemesOf others :=
  List.flatMap_append

@[simp]
theorem lexemesOf_mark (c : Char) (pieces : List Piece) :
    lexemesOf (.mark c :: pieces) = .mark c :: lexemesOf pieces :=
  rfl

theorem lexemesOf_cons (piece : Piece) (pieces : List Piece) :
    lexemesOf (piece :: pieces) = piece.lexemes ++ lexemesOf pieces :=
  rfl

/-- What a phrase can end in front of. -/
def EndsPhrase (rest : Rest) : Prop :=
  ∀ c ∈ ['*', '+', '(', ':'], rest.head? ≠ some (.mark c)

theorem endsPhrase_of_head {lexeme : Lexeme} {rest : Rest}
    (other : ∀ c ∈ ['*', '+', '(', ':'], lexeme ≠ .mark c) :
    EndsPhrase (lexeme :: rest) :=
  fun c member same => other c member (Option.some.inj same)

/-! ## Texts -/

theorem unquoteBody_doubled (content : List Char) :
    unquoteBody (doubled content ++ ['"']) = content := by
  induction content with
  | nil => rfl
  | cons c content ih =>
      by_cases quote : c = '"'
      · subst quote
        exact congrArg ('"' :: ·) ih
      · rw [doubled_cons_of_ne quote, List.cons_append, unquoteBody, ih]
        · exact fun _ same => absurd same quote
        · exact quote

@[simp]
theorem unquote_inQuotes (content : List Char) :
    unquote (inQuotes content) = content :=
  unquoteBody_doubled content

theorem unquote_of_head {characters : List Char}
    (noQuote : ∀ c ∈ characters, c ≠ '"') :
    unquote characters = characters := by
  cases characters with
  | nil => rfl
  | cons c characters =>
      rw [unquote]
      exact fun _ same => noQuote c (by simp) (List.cons.inj same).1

theorem wordLexeme_of_noOperator {characters : List Char}
    (noOperator : characters ∉ operatorWords) :
    wordLexeme characters = .text characters := by
  have none :
      [Operator.or, .and, .not].find? (fun operator =>
        operator.word == characters) = none := by
    rw [List.find?_eq_none]
    intro operator member same
    have words : ∀ operator ∈ [Operator.or, .and, .not],
        operator.word ∈ operatorWords := by decide
    exact noOperator (eq_of_beq same ▸ words operator member)
  rw [wordLexeme, none]

/-- A text is one lexeme, which adds the terms of the text to a phrase. -/
theorem WrittenText.lexemes_piece (text : WrittenText) (isRequired : Bool) :
    ∃ written,
      (text.piece isRequired).lexemes = [.text written] ∧
      ∀ (phrase : Phrase) (star : Bool),
        phrase.extend (unquote written) star =
          phrase.extend text.content star := by
  cases text with
  | word chosen =>
      have noQuote : ∀ c ∈ chosen.characters, c ≠ '"' :=
        fun c member => (isWordChar_iff.mp (chosen.wordChars c member)).2.2.1
      cases plain : chosen.characters.all isWord with
      | true =>
          refine ⟨chosen.characters, ?_, ?_⟩
          · simp [piece, Piece.lexemes, textLexeme, plain,
              wordLexeme_of_noOperator chosen.noOperator]
          · intro phrase star
            rw [unquote_of_head noQuote]
            rfl
      | false =>
          refine ⟨inQuotes chosen.characters, ?_, ?_⟩
          · rw [inQuotes, doubled_of_noQuote noQuote]
            simp [piece, Piece.lexemes, textLexeme, plain]
          · intro phrase star
            rw [unquote_inQuotes]
            rfl
  | quoted content noNull =>
      refine ⟨inQuotes (dropSigns false content), rfl, ?_⟩
      intro phrase star
      rw [unquote_inQuotes]
      simp only [Phrase.extend, terms_dropSigns]
      rfl

/-- A star, if there is one. -/
def starLexemes (hasStar : Bool) : List Lexeme :=
  if hasStar then [.mark '*'] else []

theorem WrittenTerm.lexemesOf_pieces (term : WrittenTerm) (isRequired : Bool) :
    ∃ written,
      lexemesOf (term.pieces isRequired) =
        .text written :: starLexemes term.hasStar ∧
      ∀ phrase : Phrase,
        phrase.extend (unquote written) term.hasStar = term.extend phrase := by
  rcases term with ⟨text, hasStar⟩
  rcases text.lexemes_piece isRequired with ⟨written, lexeme, same⟩
  refine ⟨written, ?_, fun phrase => same phrase hasStar⟩
  rw [pieces, lexemesOf_cons, lexeme]
  cases hasStar <;> rfl

/-! ## Phrases -/

theorem readStar_of_head {rest : Rest}
    (noStar : rest.head? ≠ some (.mark '*'))
    (source : Source) (depth : Nat) :
    readStar source depth rest = (do
      source.lookAhead rest
      source.keep (depth + 1)
      return (false, rest)) := by
  unfold readStar
  split
  · simp at noStar
  · rfl

theorem reads_star (depth : Nat) (hasStar : Bool) {rest : Rest}
    (noStar : rest.head? ≠ some (.mark '*')) :
    Reads (fun limits =>
        readStar (whole limits) depth (starLexemes hasStar ++ rest))
      (hasStar, rest) := by
  cases hasStar with
  | true => exact .bind (reads_lookAhead _) (.bind (reads_keep _) (.ok _))
  | false =>
      simp only [starLexemes, Bool.false_eq_true, if_false, List.nil_append,
        readStar_of_head noStar]
      exact .bind (reads_lookAhead _) (.bind (reads_keep _) (.ok _))

theorem readJoined_of_head {rest : Rest}
    (noPlus : rest.head? ≠ some (.mark '+'))
    (source : Source) (depth steps : Nat) (phrase : Phrase) :
    readJoined source depth steps phrase rest = .ok (phrase, rest) := by
  unfold readJoined
  split
  · simp at noPlus
  · rfl

theorem endsTerm_joined (others : List WrittenTerm) {rest : Rest}
    (ends : EndsPhrase rest) {c : Char} (member : c ∈ ['*', '(', ':']) :
    (lexemesOf (WrittenPhrase.joined others) ++ rest).head? ≠
      some (.mark c) := by
  have differ : ∀ c ∈ ['*', '(', ':'], '+' ≠ c ∧ c ∈ ['*', '+', '(', ':'] := by
    decide
  cases others with
  | nil => exact ends c (differ c member).2
  | cons term others => simpa [WrittenPhrase.joined] using (differ c member).1

/-- The texts that join a phrase. -/
theorem reads_joined (others : List WrittenTerm) {rest : Rest}
    (ends : EndsPhrase rest) (depth : Nat) :
    ∀ {steps : Nat} (phrase : Phrase),
      others.length ≤ steps →
      Reads (fun limits =>
          readJoined (whole limits) depth steps phrase
            (lexemesOf (WrittenPhrase.joined others) ++ rest))
        (others.foldl WrittenTerm.extend phrase, rest) := by
  induction others with
  | nil =>
      intro steps phrase _
      have noPlus := readJoined_of_head (ends '+' (by decide))
      simp only [WrittenPhrase.joined, List.flatMap_nil, List.foldl_nil,
        lexemesOf, List.nil_append, noPlus]
      exact .ok _
  | cons term others ih =>
      intro steps phrase enough
      obtain ⟨steps, rfl⟩ : ∃ fewer, steps = fewer + 1 :=
        Nat.exists_eq_succ_of_ne_zero (by simp at enough; omega)
      rcases term.lexemesOf_pieces false with ⟨written, lexemes, same⟩
      have split :
          lexemesOf (WrittenPhrase.joined (term :: others)) ++ rest =
            .mark '+' :: .text written :: (starLexemes term.hasStar ++
              (lexemesOf (WrittenPhrase.joined others) ++ rest)) := by
        have front : WrittenPhrase.joined (term :: others) =
            .mark '+' :: (term.pieces false ++ WrittenPhrase.joined others) := rfl
        simp [front, lexemes]
      have noStar := endsTerm_joined others ends (by decide : '*' ∈ _)
      rw [split]
      simp only [readJoined]
      refine .bind (reads_keep _) (.bind (reads_keep _)
        (.bind (reads_star _ _ noStar) ?_))
      rw [List.foldl_cons, ← same]
      exact ih _ (by simpa using enough)

theorem length_joined_le (others : List WrittenTerm) :
    others.length ≤ (lexemesOf (WrittenPhrase.joined others)).length := by
  induction others with
  | nil => simp
  | cons term others ih =>
      have front : WrittenPhrase.joined (term :: others) =
          .mark '+' :: (term.pieces false ++ WrittenPhrase.joined others) := rfl
      simp only [front, lexemesOf_mark, lexemesOf_append, List.length_cons,
        List.length_append]
      omega

/-- The lexemes of a phrase: its first text, and the texts that join it. -/
theorem WrittenPhrase.lexemesOf_pieces (phrase : WrittenPhrase) :
    ∃ written,
      lexemesOf phrase.pieces =
        .text written :: (starLexemes phrase.first.hasStar ++
          lexemesOf (joined phrase.others)) ∧
      Phrase.extend {} (unquote written) phrase.first.hasStar =
        phrase.first.extend {} := by
  rcases phrase.first.lexemesOf_pieces phrase.isRequired with
    ⟨written, lexemes, same⟩
  exact ⟨written, by simp [pieces, lexemes], same {}⟩

theorem reads_phrase (phrase : WrittenPhrase) {rest : Rest}
    (ends : EndsPhrase rest) {steps : Nat} (depth : Nat)
    (enough : (lexemesOf phrase.pieces).length ≤ steps + 1) :
    Reads (fun limits =>
        readPhrase (whole limits) steps depth
          (lexemesOf phrase.pieces ++ rest))
      (phrase.meaning, rest) := by
  rcases phrase.lexemesOf_pieces with ⟨written, lexemes, same⟩
  have length := length_joined_le phrase.others
  have enoughOthers : phrase.others.length ≤ steps := by
    simp only [lexemes, List.length_cons, List.length_append] at enough
    omega
  have noStar := endsTerm_joined phrase.others ends (by decide : '*' ∈ _)
  simp only [lexemes, List.cons_append, List.append_assoc, readPhrase]
  refine .bind (reads_keep _) (.bind (reads_star _ _ noStar) ?_)
  rw [same]
  exact reads_joined phrase.others ends depth _ enoughOthers

/-- A phrase begins with a text that is neither a name nor a column. -/
theorem exists_text_of_phrase (phrase : WrittenPhrase) {rest : Rest}
    (ends : EndsPhrase rest) :
    ∃ written others,
      lexemesOf phrase.pieces ++ rest = .text written :: others ∧
      others.head? ≠ some (.mark '(') ∧ others.head? ≠ some (.mark ':') := by
  rcases phrase.lexemesOf_pieces with ⟨written, lexemes, -⟩
  refine ⟨written, _, by rw [lexemes]; rfl, ?_, ?_⟩
  all_goals
    cases phrase.first.hasStar with
    | true => simp [starLexemes]
    | false => exact endsTerm_joined phrase.others ends (by decide)

/-! ## Groups -/

theorem isFirst_extend (phrase : Phrase) (text : List Char) (star : Bool) :
    (phrase.extend text star).isFirst = phrase.isFirst := by
  simp only [Phrase.extend]
  split <;> rfl

theorem isFirst_foldl_extend (others : List WrittenTerm) (phrase : Phrase) :
    (others.foldl WrittenTerm.extend phrase).isFirst = phrase.isFirst := by
  induction others generalizing phrase with
  | nil => rfl
  | cons term others ih =>
      rw [List.foldl_cons, ih]
      exact isFirst_extend phrase _ _

theorem WrittenPhrase.isFirst_meaning (phrase : WrittenPhrase) :
    phrase.meaning.isFirst = false := by
  rw [meaning, isFirst_foldl_extend]
  exact isFirst_extend {} _ _

theorem readPhrases_of_head {rest : Rest}
    (noText : ∀ written, rest.head? ≠ some (.text written))
    (source : Source) (depth steps : Nat) :
    readPhrases source depth steps rest = .ok ([], rest) := by
  unfold readPhrases
  split
  · rename_i written _
    exact absurd rfl (noText written)
  · rfl

theorem endsPhrase_phrases (others : List WrittenPhrase) {rest : Rest}
    (ends : EndsPhrase rest) :
    EndsPhrase (lexemesOf (others.flatMap (·.pieces)) ++ rest) := by
  cases others with
  | nil => exact ends
  | cons phrase others =>
      rcases phrase.lexemesOf_pieces with ⟨written, lexemes, -⟩
      rw [List.flatMap_cons, lexemesOf_append, lexemes]
      exact endsPhrase_of_head (by simp)

theorem reads_phrases (others : List WrittenPhrase) {rest : Rest}
    (ends : EndsPhrase rest)
    (noText : ∀ written, rest.head? ≠ some (.text written)) (depth : Nat) :
    ∀ {steps : Nat},
      (lexemesOf (others.flatMap (·.pieces))).length ≤ steps →
      Reads (fun limits =>
          readPhrases (whole limits) depth steps
            (lexemesOf (others.flatMap (·.pieces)) ++ rest))
        (others.map (·.meaning), rest) := by
  induction others with
  | nil =>
      intro steps _
      have none := readPhrases_of_head noText
      simp only [List.flatMap_nil, lexemesOf, List.nil_append, none]
      exact .ok _
  | cons phrase others ih =>
      intro steps enough
      rcases phrase.lexemesOf_pieces with ⟨written, lexemes, -⟩
      have endsHere := endsPhrase_phrases others ends
      rw [List.flatMap_cons, lexemesOf_append, List.length_append] at enough
      have positive : (lexemesOf phrase.pieces).length ≠ 0 := by simp [lexemes]
      obtain ⟨steps, rfl⟩ : ∃ fewer, steps = fewer + 1 :=
        Nat.exists_eq_succ_of_ne_zero (by omega)
      have reads := reads_phrase phrase endsHere (depth + 1)
        (by omega : (lexemesOf phrase.pieces).length ≤ steps + 1)
      rw [List.flatMap_cons, lexemesOf_append, List.append_assoc]
      rw [lexemes] at reads ⊢
      simp only [List.cons_append, readPhrases] at reads ⊢
      refine .bind reads (.bind (ih (by omega)) (.ok _))

theorem textLexeme_digits (distance : Distance) :
    textLexeme distance.digits = .text distance.digits := by
  have plain : distance.digits.all isWord = true := by
    rw [List.all_eq_true]
    intro c member
    have ascii : c.toNat < 128 := by
      have code := toNat_of_asciiDigit (distance.areDigits c member)
      omega
    simp [isWord, ascii, distance.areDigits c member]
  have noOperator : distance.digits ∉ operatorWords := by
    intro member
    have letters : ∀ word ∈ operatorWords, word.all isAsciiDigit = false := by
      decide
    have digits : distance.digits.all isAsciiDigit = true :=
      List.all_eq_true.mpr distance.areDigits
    rw [letters _ member] at digits
    cases digits
  rw [textLexeme, plain, if_pos rfl, wordLexeme_of_noOperator noOperator]

theorem reads_distance (distance : Option Distance) (depth : Nat) (rest : Rest) :
    Reads (fun limits =>
        readDistance (whole limits) depth
          (lexemesOf (WrittenGroup.distancePieces distance) ++
            .mark ')' :: rest))
      (distance.map (·.digits), .mark ')' :: rest) := by
  cases distance with
  | none => exact .bind (reads_lookAhead _) (.bind (reads_keep _) (.ok _))
  | some distance =>
      have lexemes :
          lexemesOf (WrittenGroup.distancePieces (some distance)) =
            [.mark ',', .text distance.digits] := by
        rw [WrittenGroup.distancePieces, lexemesOf_mark, lexemesOf_cons,
          Piece.lexemes, textLexeme_digits]
        rfl
      rw [lexemes]
      exact .bind (reads_keep _) (.bind (reads_keep _) (.ok _))

theorem distanceOf?_digits (distance : Distance) :
    distanceOf? distance.digits =
      some (WrittenGroup.distanceValue (some distance)) := by
  have digits : distance.digits.all isAsciiDigit = true :=
    List.all_eq_true.mpr distance.areDigits
  cases value : distanceOf? distance.digits with
  | none =>
      rw [distanceOf?, if_pos digits] at value
      cases value
  | some number => rw [WrittenGroup.distanceValue, value, Option.getD_some]

/-- The lexemes of a group of near phrases. -/
theorem lexemesOf_near (first : WrittenPhrase) (others : List WrittenPhrase)
    (distance : Option Distance) (rest : Rest) :
    lexemesOf (WrittenGroup.near first others distance).pieces ++ rest =
      .text "NEAR".toList :: .mark '(' ::
        (lexemesOf first.pieces ++ (lexemesOf (others.flatMap (·.pieces)) ++
          (lexemesOf (WrittenGroup.distancePieces distance) ++
            .mark ')' :: rest))) := by
  have name : textLexeme "NEAR".toList = .text "NEAR".toList := by decide
  have closing : lexemesOf [.mark ')'] = [.mark ')'] := rfl
  rw [WrittenGroup.pieces, lexemesOf_cons, Piece.lexemes, name]
  simp only [lexemesOf_mark, lexemesOf_append, closing, List.append_assoc,
    List.cons_append, List.nil_append]

theorem reads_near (first : WrittenPhrase) (others : List WrittenPhrase)
    (distance : Option Distance) {steps : Nat} (depth : Nat) (rest : Rest)
    (enoughFirst : (lexemesOf first.pieces).length ≤ steps + 1)
    (enoughOthers : (lexemesOf (others.flatMap (·.pieces))).length ≤ steps) :
    Reads (fun limits =>
        readNear (whole limits) steps depth "NEAR".toList
          (lexemesOf first.pieces ++ (lexemesOf (others.flatMap (·.pieces)) ++
            (lexemesOf (WrittenGroup.distancePieces distance) ++
              .mark ')' :: rest))))
      ((WrittenGroup.near first others distance).meaning none, rest) := by
  have ends : EndsPhrase
      (lexemesOf (WrittenGroup.distancePieces distance) ++ .mark ')' :: rest) := by
    cases distance <;> exact endsPhrase_of_head (by decide)
  have noText : ∀ written,
      (lexemesOf (WrittenGroup.distancePieces distance) ++
        .mark ')' :: rest).head? ≠ some (.text written) := by
    intro written
    cases distance with
    | none => simp [WrittenGroup.distancePieces, lexemesOf]
    | some distance => simp [WrittenGroup.distancePieces]
  unfold readNear
  refine .bind (reads_phrase first (endsPhrase_phrases others ends) _ enoughFirst)
    (.bind (reads_phrases others ends noText _ enoughOthers)
      (.bind (reads_distance distance _ rest)
        (.bind (reads_keep _) (.bind (reads_lookAhead _) ?_))))
  cases distance with
  | none => exact .ok _
  | some distance =>
      simp only [Option.map_some, distanceOf?_digits]
      exact .ok _

theorem readGroup_text {written : List Char} {rest : Rest}
    (noOpening : rest.head? ≠ some (.mark '('))
    (source : Source) (steps depth : Nat) :
    readGroup source steps depth (.text written :: rest) = (do
      let (phrase, rest) ← readPhrase source steps depth (.text written :: rest)
      return ({ phrases := [phrase] }, rest)) := by
  unfold readGroup
  split
  · rename_i same
    cases same
  · rename_i same
    cases same
    simp at noOpening
  · rfl

/-- A group behind its filter. -/
theorem reads_group (group : WrittenGroup) {rest : Rest}
    (ends : EndsPhrase rest) {steps : Nat} (depth : Nat)
    (enough : (lexemesOf group.pieces).length ≤ steps + 1) :
    Reads (fun limits =>
        readGroup (whole limits) steps depth
          (lexemesOf group.pieces ++ rest))
      (group.meaning none, rest) := by
  cases group with
  | phrase isFirst only =>
      cases isFirst with
      | true =>
          have enoughOnly : (lexemesOf only.pieces).length ≤ steps + 1 := by
            simp [WrittenGroup.pieces] at enough
            omega
          exact .bind (reads_keep _)
            (.bind (reads_phrase only ends _ enoughOnly) (.ok _))
      | false =>
          have reads := reads_phrase only ends depth enough
          rcases exists_text_of_phrase only ends with
            ⟨written, others, lexemes, noOpening, -⟩
          have plain : { only.meaning with isFirst := false } = only.meaning := by
            rw [← only.isFirst_meaning]
          simp only [WrittenGroup.pieces, Bool.false_eq_true, if_false,
            List.nil_append, WrittenGroup.meaning, plain]
          rw [lexemes] at reads ⊢
          simp only [readGroup_text noOpening]
          exact .bind reads (.ok _)
  | near first others distance =>
      have lengths :
          (lexemesOf first.pieces).length +
              (lexemesOf (others.flatMap (·.pieces))).length ≤ steps := by
        have whole := congrArg List.length
          (lexemesOf_near first others distance [])
        simp only [List.append_nil, List.length_append, List.length_cons]
          at whole
        omega
      rw [lexemesOf_near]
      exact .bind (reads_keep _) (reads_near first others distance depth rest
        (by omega) (by omega))

/-! ## Filters -/

theorem columnOf_name (column : Column) :
    columnOf column.name.toList = .ok column := by
  cases column <;> rfl

theorem reads_names (others : List Column) (depth : Nat) (rest : Rest) :
    Reads (fun limits =>
        readNames (whole limits) depth
          (others.map nameLexeme ++ .mark '\x7d' :: rest))
      (others, rest) := by
  induction others with
  | nil => exact .bind (reads_keep _) (.ok _)
  | cons column others ih =>
      simp only [List.map_cons, List.cons_append, nameLexeme, readNames,
        columnOf_name]
      exact .bind (reads_keep _)
        (.bind (reads_lookAhead _) (.bind_ok (.bind ih (.ok _))))

theorem lexemesOf_one (column : Column) :
    lexemesOf (WrittenFilter.one column).pieces =
      [.text column.name.toList, .mark ':'] := by
  cases column <;> decide

theorem lexemesOf_several (isPadded : Bool) (first : Column)
    (others : List Column) :
    lexemesOf (WrittenFilter.several isPadded first others).pieces =
      .mark '\x7b' :: .text first.name.toList ::
        (others.map nameLexeme ++ [.mark '\x7d', .mark ':']) := by
  simp [WrittenFilter.pieces, lexemesOf, Piece.lexemes, nameLexeme]

/-- A filter with its colon. -/
theorem reads_filter (filter : WrittenFilter) (depth : Nat) (rest : Rest) :
    Reads (fun limits =>
        readFilter (whole limits) depth (lexemesOf filter.pieces ++ rest))
      (some filter.columns, rest) := by
  cases filter with
  | one column =>
      simp only [lexemesOf_one, List.cons_append, List.nil_append, readFilter,
        readColumns, columnOf_name, readColon]
      exact .bind
        (.bind (reads_keep _) (.bind (reads_lookAhead _) (.bind_ok (.ok _))))
        (.bind (reads_keep _) (.ok _))
  | several isPadded first others =>
      have names := reads_names others (depth + 1 + 1) (.mark ':' :: rest)
      simp only [lexemesOf_several, List.cons_append, List.append_assoc,
        List.nil_append, readFilter, readColumns, columnOf_name]
      exact .bind
        (.bind (reads_keep _) (.bind (reads_keep _) (.bind (reads_lookAhead _)
          (.bind_ok (.bind names (.ok _))))))
        (.bind (reads_keep _) (.ok _))

/-- What a filter can stand in front of: lexemes that are read without a filter
where there is none. -/
def IsUnfiltered (rest : Rest) : Prop :=
  ∀ source depth, readFilter source depth rest = .ok (none, rest)

theorem isUnfiltered_text {written : List Char} {rest : Rest}
    (noColon : rest.head? ≠ some (.mark ':')) :
    IsUnfiltered (.text written :: rest) := by
  intro source depth
  unfold readFilter
  split
  · rename_i same
    cases same
    simp at noColon
  · rename_i same
    cases same
  · rename_i same
    cases same
  · rfl

theorem isUnfiltered_group (group : WrittenGroup) {rest : Rest}
    (ends : EndsPhrase rest) :
    IsUnfiltered (lexemesOf group.pieces ++ rest) := by
  cases group with
  | phrase isFirst only =>
      cases isFirst with
      | true => exact fun _ _ => rfl
      | false =>
          rcases exists_text_of_phrase only ends with
            ⟨written, others, lexemes, -, noColon⟩
          have same :
              lexemesOf (WrittenGroup.phrase false only).pieces ++ rest =
                .text written :: others := lexemes
          rw [same]
          exact isUnfiltered_text noColon
  | near first others distance =>
      rw [lexemesOf_near]
      exact isUnfiltered_text (by simp)

theorem reads_optionalFilter (filter : Option WrittenFilter) (depth : Nat)
    {rest : Rest} (plain : IsUnfiltered rest) :
    Reads (fun limits =>
        readFilter (whole limits) depth
          (lexemesOf (WrittenFilter.optionalPieces filter) ++ rest))
      (filter.map (·.columns), rest) := by
  cases filter with
  | none =>
      have none : ∀ limits, readFilter (whole limits) depth rest = _ :=
        fun limits => plain (whole limits) depth
      simp only [WrittenFilter.optionalPieces, lexemesOf, List.flatMap_nil,
        List.nil_append, none]
      exact .ok _
  | some filter => exact reads_filter filter depth rest

/-! ## Lists of groups -/

theorem WrittenItem.lexemesOf_pieces (item : WrittenItem) :
    lexemesOf item.pieces =
      lexemesOf (WrittenFilter.optionalPieces item.filter) ++
        lexemesOf item.group.pieces :=
  lexemesOf_append _ _

theorem endsPhrase_of_beginsGroup {lexeme : Lexeme} {rest : Rest}
    (begins : beginsGroup lexeme = true) :
    EndsPhrase (lexeme :: rest) := by
  apply endsPhrase_of_head
  have none : ∀ c ∈ ['*', '+', '(', ':'], beginsGroup (.mark c) = false := by
    decide
  rintro c member rfl
  simp [none c member] at begins

theorem exists_beginsGroup (item : WrittenItem) :
    ∃ lexeme others,
      lexemesOf item.pieces = lexeme :: others ∧
      beginsGroup lexeme = true := by
  rcases item with ⟨filter, group⟩
  cases filter with
  | some filter =>
      cases filter with
      | one column =>
          rw [WrittenItem.pieces, lexemesOf_append,
            WrittenFilter.optionalPieces, lexemesOf_one]
          exact ⟨_, _, rfl, rfl⟩
      | several isPadded first others => exact ⟨_, _, rfl, by decide⟩
  | none =>
      cases group with
      | phrase isFirst only =>
          cases isFirst with
          | true => exact ⟨_, _, rfl, by decide⟩
          | false =>
              rcases only.lexemesOf_pieces with ⟨written, lexemes, -⟩
              exact ⟨_, _, lexemes, rfl⟩
      | near first others distance =>
          have lexemes := lexemesOf_near first others distance []
          rw [List.append_nil] at lexemes
          exact ⟨_, _, lexemes, rfl⟩

theorem endsPhrase_items (items : List WrittenItem) {rest : Rest}
    (ends : EndsPhrase rest) :
    EndsPhrase (lexemesOf (items.flatMap (·.pieces)) ++ rest) := by
  cases items with
  | nil => exact ends
  | cons item items =>
      rcases exists_beginsGroup item with ⟨lexeme, others, lexemes, begins⟩
      rw [List.flatMap_cons, lexemesOf_append, lexemes]
      exact endsPhrase_of_beginsGroup begins

theorem WrittenGroup.meaning_filter (group : WrittenGroup)
    (filter : Option (List Column)) :
    { group.meaning none with filter } = group.meaning filter := by
  cases group <;> rfl

theorem readGroups_of_head {rest : Rest}
    (noGroup : ∀ lexeme ∈ rest.head?, beginsGroup lexeme = false)
    (source : Source) (depth steps : Nat) :
    readGroups source depth steps rest = .ok ([], rest) := by
  cases rest with
  | nil => cases steps <;> rfl
  | cons lexeme rest =>
      have none : beginsGroup lexeme = false := noGroup lexeme rfl
      cases steps with
      | zero => rfl
      | succ steps => simp [readGroups, none]

theorem reads_groups (items : List WrittenItem) {rest : Rest}
    (ends : EndsPhrase rest)
    (noGroup : ∀ lexeme ∈ rest.head?, beginsGroup lexeme = false)
    (depth : Nat) :
    ∀ {steps : Nat},
      (lexemesOf (items.flatMap (·.pieces))).length ≤ steps →
      Reads (fun limits =>
          readGroups (whole limits) depth steps
            (lexemesOf (items.flatMap (·.pieces)) ++ rest))
        (items.map (·.meaning), rest) := by
  induction items with
  | nil =>
      intro steps _
      have none := readGroups_of_head noGroup
      simp only [List.flatMap_nil, lexemesOf, List.nil_append, none]
      exact .ok _
  | cons item items ih =>
      intro steps enough
      rcases exists_beginsGroup item with ⟨lexeme, others, lexemes, begins⟩
      rw [List.flatMap_cons, lexemesOf_append, List.length_append] at enough
      have positive : (lexemesOf item.pieces).length ≠ 0 := by simp [lexemes]
      obtain ⟨steps, rfl⟩ : ∃ fewer, steps = fewer + 1 :=
        Nat.exists_eq_succ_of_ne_zero (by omega)
      have endsHere := endsPhrase_items items ends
      have filter := reads_optionalFilter item.filter (depth + 1)
        (isUnfiltered_group item.group endsHere)
      have front := item.lexemesOf_pieces
      have enoughGroup : (lexemesOf item.group.pieces).length ≤ steps + 1 := by
        rw [front, List.length_append] at enough
        omega
      rw [← List.append_assoc, ← front, lexemes] at filter
      rw [List.flatMap_cons, lexemesOf_append, List.append_assoc, lexemes]
      simp only [List.cons_append, readGroups, begins, if_true] at filter ⊢
      refine .bind filter
        (.bind (reads_group item.group endsHere _ enoughGroup)
          (.bind (ih (by omega)) ?_))
      have same := item.group.meaning_filter (item.filter.map (·.columns))
      rw [List.map_cons, WrittenItem.meaning, ← same]
      exact .ok _

/-! ## Expressions -/

/-- What a query of a strength can end in front of. -/
def EndsQuery (strength : Nat) (rest : Rest) : Prop :=
  ∀ lexeme ∈ rest.head?,
    lexeme = .mark ')' ∨
      ∃ operator, lexeme = .operator operator ∧ operator.strength ≤ strength

theorem endsQuery_nil (strength : Nat) : EndsQuery strength [] := by
  simp [EndsQuery]

theorem endsQuery_closing (strength : Nat) (rest : Rest) :
    EndsQuery strength (.mark ')' :: rest) := by
  intro lexeme first
  exact Or.inl (Option.some.inj first).symm

theorem endsQuery_operator (operator : Operator) (rest : Rest) :
    EndsQuery operator.strength (.operator operator :: rest) := by
  intro lexeme first
  rcases Option.some.inj first with rfl
  exact Or.inr ⟨operator, rfl, le_refl _⟩

theorem EndsQuery.mono {strength stronger : Nat} {rest : Rest}
    (ends : EndsQuery strength rest) (atMost : strength ≤ stronger) :
    EndsQuery stronger rest := by
  intro lexeme first
  rcases ends lexeme first with closing | ⟨operator, same, weaker⟩
  · exact Or.inl closing
  · exact Or.inr ⟨operator, same, by omega⟩

theorem EndsQuery.endsPhrase {strength : Nat} {rest : Rest}
    (ends : EndsQuery strength rest) :
    EndsPhrase rest := by
  cases rest with
  | nil => simp [EndsPhrase]
  | cons lexeme rest =>
      apply endsPhrase_of_head
      rcases ends lexeme rfl with rfl | ⟨operator, rfl, -⟩ <;> simp

theorem EndsQuery.beginsGroup {strength : Nat} {rest : Rest}
    (ends : EndsQuery strength rest) :
    ∀ lexeme ∈ rest.head?, beginsGroup lexeme = false := by
  intro lexeme first
  rcases ends lexeme first with rfl | ⟨operator, rfl, -⟩ <;> rfl

/-- The operators behind a query are too weak for its right side. -/
theorem EndsQuery.weak {strength required : Nat} {rest : Rest}
    (ends : EndsQuery strength rest) (below : strength < required) :
    ∀ operator, rest.head? = some (.operator operator) →
      operator.strength < required := by
  intro operator first
  rcases ends _ first with closing | ⟨other, same, weaker⟩
  · cases closing
  · cases same
    omega

/-- Operators that are too weak are left to the caller. -/
theorem readOperators_of_head {required : Nat} {rest : Rest}
    (weak : ∀ operator, rest.head? = some (.operator operator) →
      operator.strength < required)
    (source : Source) (depth steps : Nat) (left : Expression) :
    readOperators source steps required depth left rest = .ok (left, rest) := by
  cases rest with
  | nil => cases steps <;> rw [readOperators] <;> simp
  | cons lexeme rest =>
      cases lexeme with
      | operator operator =>
          have weaker := weak operator rfl
          cases steps with
          | zero => rw [readOperators]; simp
          | succ steps => rw [readOperators, if_pos weaker]
      | text written => cases steps <;> rw [readOperators] <;> simp
      | mark c => cases steps <;> rw [readOperators] <;> simp

theorem reads_left {required : Nat} {rest : Rest}
    (weak : ∀ operator, rest.head? = some (.operator operator) →
      operator.strength < required)
    (depth steps : Nat) (left : Expression) :
    Reads (fun limits =>
        readOperators (whole limits) steps required depth left rest)
      (left, rest) := by
  simp only [readOperators_of_head weak]
  exact .ok _

/-- How many operators stand on the left side of a query. -/
def WrittenQuery.spine {strength : Nat} : WrittenQuery strength → Nat
  | items _ _ => 0
  | parenthesised _ _ => 0
  | combined _ _ left _ => left.spine + 1

theorem lexemesOf_operator (operator : Operator) (pieces : List Piece) :
    lexemesOf (.word false operator.word :: pieces) =
      .operator operator :: lexemesOf pieces := by
  have lexeme : textLexeme operator.word = .operator operator := by
    cases operator <;> decide
  rw [lexemesOf_cons, Piece.lexemes, lexeme]
  rfl

theorem WrittenQuery.spine_lt {strength : Nat}
    (query : WrittenQuery strength) :
    query.spine < (lexemesOf query.pieces).length := by
  induction query with
  | items first others =>
      rcases exists_beginsGroup first with ⟨lexeme, rest, lexemes, -⟩
      simp [pieces, lexemes, spine]
  | parenthesised filter body ih =>
      simp only [pieces, spine, lexemesOf_append, lexemesOf_mark,
        List.length_append, List.length_cons]
      omega
  | combined operator strong left right ihLeft ihRight =>
      simp only [pieces, spine, lexemesOf_append, lexemesOf_operator,
        List.length_append, List.length_cons]
      omega

theorem exists_head_of_group (group : WrittenGroup) :
    ∃ lexeme others,
      lexemesOf group.pieces = lexeme :: others ∧ lexeme ≠ .mark '(' := by
  cases group with
  | phrase isFirst only =>
      cases isFirst with
      | true => exact ⟨_, _, rfl, by decide⟩
      | false =>
          rcases only.lexemesOf_pieces with ⟨written, lexemes, -⟩
          exact ⟨_, _, lexemes, by simp⟩
  | near first others distance =>
      have lexemes := lexemesOf_near first others distance []
      rw [List.append_nil] at lexemes
      exact ⟨_, _, lexemes, by simp⟩

/-- An operand that consists of groups. -/
theorem reads_items (first : WrittenItem) (others : List WrittenItem)
    {rest : Rest} (ends : EndsPhrase rest)
    (noGroup : ∀ lexeme ∈ rest.head?, beginsGroup lexeme = false)
    {steps : Nat} (depth : Nat)
    (enough : (lexemesOf (first.pieces ++
      others.flatMap (·.pieces))).length ≤ steps + 1) :
    Reads (fun limits =>
        readOperand (whole limits) (steps + 1) depth
          (lexemesOf (first.pieces ++ others.flatMap (·.pieces)) ++ rest))
      (.groups (first.meaning :: others.map (·.meaning)), rest) := by
  rcases first with ⟨filter, group⟩
  have endsHere := endsPhrase_items others ends
  have readsFilter := reads_optionalFilter filter depth
    (isUnfiltered_group group endsHere)
  rcases exists_head_of_group group with ⟨lexeme, behind, lexemes, noOpening⟩
  rw [lexemesOf_append, WrittenItem.lexemesOf_pieces] at enough ⊢
  simp only [List.length_append] at enough
  have positive : (lexemesOf group.pieces).length ≠ 0 := by simp [lexemes]
  have readsGroup := reads_group group endsHere
    (depth + filterParts (filter.map (·.columns)))
    (by omega : (lexemesOf group.pieces).length ≤ steps + 1)
  have readsOthers := reads_groups others ends noGroup depth
    (by omega : (lexemesOf (others.flatMap (·.pieces))).length ≤ steps)
  simp only [List.append_assoc, readOperand]
  rw [lexemes] at readsFilter readsGroup ⊢
  refine .bind readsFilter ?_
  simp only
  split
  · rename_i same
    exact absurd (List.cons.inj same).1 noOpening
  · refine .bind readsGroup (.bind readsOthers ?_)
    have same := group.meaning_filter (filter.map (·.columns))
    rw [WrittenItem.meaning, ← same]
    exact .ok _

/-- An operand in parentheses. -/
theorem reads_parenthesised (filter : Option WrittenFilter)
    (body : WrittenQuery 0) (rest : Rest) {steps depth : Nat}
    (inside :
      Reads (fun limits =>
          readExpression (whole limits) steps 0
            (depth + filterParts (filter.map (·.columns)) + 1)
            (lexemesOf body.pieces ++ .mark ')' :: rest))
        (body.meaning, .mark ')' :: rest)) :
    Reads (fun limits =>
        readOperand (whole limits) (steps + 1) depth
          (lexemesOf (WrittenFilter.optionalPieces filter) ++
            .mark '(' :: (lexemesOf body.pieces ++ .mark ')' :: rest)))
      (restrict (filter.map (·.columns)) body.meaning, rest) := by
  have opening :
      IsUnfiltered (.mark '(' :: (lexemesOf body.pieces ++ .mark ')' :: rest)) :=
    fun _ _ => rfl
  simp only [readOperand]
  exact .bind (reads_optionalFilter filter depth opening)
    (.bind (reads_keep _)
      (.bind inside (.bind (.bind (reads_keep _) (.ok _)) (.ok _))))

theorem readExpression_eq (source : Source)
    (steps required depth : Nat) (rest : Rest) :
    readExpression source (steps + 1) required depth rest = (do
      let (left, rest) ← readOperand source steps depth rest
      readOperators source steps required depth left rest) := by
  rw [readExpression]

/-- To read a query and what is behind it is to read what is behind it with the
meaning of the query as the left operand. -/
theorem reads_query {strength : Nat} (query : WrittenQuery strength) :
    ∀ {required steps : Nat} (depth : Nat) {rest : Rest}
      {value : Expression × Rest},
      required ≤ strength →
      EndsQuery strength rest →
      3 * (lexemesOf query.pieces).length ≤ steps + 1 + query.spine →
      Reads (fun limits =>
          readOperators (whole limits) steps required depth query.meaning rest)
        value →
      Reads (fun limits =>
          readExpression (whole limits) (steps + 1 + query.spine) required depth
            (lexemesOf query.pieces ++ rest))
        value := by
  induction query with
  | items first others =>
      intro required steps depth rest value _ ends enough goesOn
      simp only [WrittenQuery.pieces, WrittenQuery.spine, Nat.add_zero]
        at enough ⊢
      rcases exists_beginsGroup first with ⟨lexeme, behind, lexemes, -⟩
      have positive :
          (lexemesOf (first.pieces ++ others.flatMap (·.pieces))).length ≠ 0 := by
        simp [lexemes]
      obtain ⟨steps, rfl⟩ : ∃ fewer, steps = fewer + 1 :=
        Nat.exists_eq_succ_of_ne_zero (by omega)
      simp only [readExpression_eq]
      exact .bind
        (reads_items first others ends.endsPhrase ends.beginsGroup depth
          (by omega))
        goesOn
  | parenthesised filter body ih =>
      intro required steps depth rest value _ ends enough goesOn
      have split :
          lexemesOf (WrittenFilter.optionalPieces filter ++
              .mark '(' :: (body.pieces ++ [.mark ')'])) ++ rest =
            lexemesOf (WrittenFilter.optionalPieces filter) ++
              .mark '(' :: (lexemesOf body.pieces ++ .mark ')' :: rest) := by
        have closing : lexemesOf [.mark ')'] = [.mark ')'] := rfl
        simp [closing]
      have lengths := congrArg List.length split
      simp only [List.length_append, List.length_cons] at lengths
      simp only [WrittenQuery.pieces, WrittenQuery.spine, Nat.add_zero]
        at enough ⊢
      have bodySpine := body.spine_lt
      obtain ⟨fewer, rfl⟩ : ∃ fewer, steps = fewer + 1 + body.spine + 1 :=
        ⟨steps - 2 - body.spine, by omega⟩
      have stops : ∀ operator,
          (Lexeme.mark ')' :: rest).head? = some (.operator operator) →
            operator.strength < 0 := by
        intro operator first
        cases first
      have inside :
          Reads (fun limits =>
              readExpression (whole limits) (fewer + 1 + body.spine) 0
                (depth + filterParts (filter.map (·.columns)) + 1)
                (lexemesOf body.pieces ++ .mark ')' :: rest))
            (body.meaning, .mark ')' :: rest) :=
        ih _ (le_refl _) (endsQuery_closing 0 rest) (by omega)
          (reads_left stops _ _ _)
      rw [split]
      simp only [readExpression_eq]
      exact .bind (reads_parenthesised filter body rest inside) goesOn
  | combined operator strong left right ihLeft ihRight =>
      -- The left side is read first, and the operator with the right side is
      -- then what goes on.
      intro required steps depth rest value weak ends enough goesOn
      simp only [WrittenQuery.pieces, WrittenQuery.spine, lexemesOf_append,
        lexemesOf_operator, List.length_append, List.length_cons] at enough ⊢
      have leftSpine := left.spine_lt
      have rightSpine := right.spine_lt
      have stays : ¬ operator.strength < required := by omega
      have endsLeft :=
        endsQuery_operator operator (lexemesOf right.pieces ++ rest)
      have endsRight : EndsQuery operator.strength rest := ends.mono strong
      have readsRight :
          Reads (fun limits =>
              readExpression (whole limits) steps (operator.strength + 1)
                (depth + 2) (lexemesOf right.pieces ++ rest))
            (right.meaning, rest) := by
        obtain ⟨fewer, rfl⟩ : ∃ fewer, steps = fewer + 1 + right.spine :=
          ⟨steps - 1 - right.spine, by omega⟩
        have stops := endsRight.weak (Nat.lt_succ_self operator.strength)
        exact ihRight (depth + 2) (le_refl _) (endsRight.mono (Nat.le_succ _))
          (by omega) (reads_left stops _ _ _)
      have onLeft :
          Reads (fun limits =>
              readOperators (whole limits) (steps + 1) required depth
                left.meaning
                (.operator operator :: (lexemesOf right.pieces ++ rest)))
            value := by
        simp only [readOperators, if_neg stays]
        exact .bind (reads_keep _) (.bind readsRight
          (.bind (reads_lookAhead _) (.bind (reads_combine _ _ _) goesOn)))
      have reads := ihLeft depth (by omega) endsLeft (by omega) onLeft
      have same : steps + 1 + (left.spine + 1) = steps + 1 + 1 + left.spine := by
        omega
      rw [same, List.append_assoc, List.cons_append]
      exact reads

/-- A scoped query is read as what it means. -/
theorem reads_all {strength : Nat} (query : WrittenQuery strength) :
    Reads (fun limits =>
        readAll limits ([' '].intercalate (query.pieces.map (·.part))))
      query.meaning := by
  have spine := query.spine_lt
  have sound : ∀ piece ∈ query.pieces, piece.IsSound :=
    fun _ => WrittenQuery.isSound_of_mem
  have lexemes :
      lexemes ([' '].intercalate (query.pieces.map (·.part))) =
        (lexemesOf query.pieces, none) := lexemes_parts sound
  obtain ⟨steps, fuel⟩ : ∃ steps,
      3 * (lexemesOf query.pieces).length + 3 = steps + 1 + query.spine :=
    ⟨3 * (lexemesOf query.pieces).length + 2 - query.spine, by omega⟩
  have nothing : ∀ operator,
      ([] : Rest).head? = some (.operator operator) →
        operator.strength < 0 := by
    intro operator first
    cases first
  have reads :
      Reads (fun limits =>
          readExpression (whole limits) (steps + 1 + query.spine) 0 0
            (lexemesOf query.pieces ++ []))
        (query.meaning, []) :=
    reads_query query 0 (Nat.zero_le _) (endsQuery_nil _) (by omega)
      (reads_left nothing _ _ _)
  rw [List.append_nil] at reads
  simp only [readAll, lexemes, fuel]
  exact .bind reads (.ok _)

end ClusterLog.Query
