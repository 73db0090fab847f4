import ClusterLog.Proofs.Query.Lexemes

/-!
# The spelling of expressions

Every part of an expression with single blanks between the parts spells one
lexeme: a mark, a plain word or a quoted text.  Only the last part may be a
quoted text without its closing quote, and then cutting the expression into
lexemes fails; it also fails where a null character ends the expression inside
of a quoted text.
-/

namespace ClusterLog.Query

open Text

/-! ## Parts -/

/-- The lexeme that a part of an expression spells. -/
def spelled : List Char → Lexeme
  | '"' :: rest => .text ('"' :: rest)
  | [c] => if markChars.contains c then .mark c else wordLexeme [c]
  | part => wordLexeme part

/-- A part that spells a lexeme. -/
inductive IsLegible : List Char → Prop where
  | mark {c : Char} (isMark : c ∈ markChars) : IsLegible [c]
  | word {characters : List Char} (nonempty : characters ≠ [])
    (plain : characters.all isWord = true) : IsLegible characters
  | quoted (content : List Char) : IsLegible (inQuotes content)

/-- A quoted text without its closing quote. -/
def IsUnclosed (part : List Char) : Prop :=
  ∃ content, part = '"' :: doubled content

/-- Parts that spell lexemes, the last of which may be unclosed. -/
def AreLegible : List (List Char) → Prop
  | [] => True
  | part :: others =>
    (IsLegible part ∨ IsUnclosed part ∧ others = []) ∧ AreLegible others

theorem AreLegible.append {front back : List (List Char)}
    (legible : ∀ part ∈ front, IsLegible part) (others : AreLegible back) :
    AreLegible (front ++ back) := by
  induction front with
  | nil => exact others
  | cons part front ih =>
      refine ⟨Or.inl (legible part (by simp)), ih ?_⟩
      intro other member
      exact legible other (by simp [member])

theorem spelled_mark {c : Char} (isMark : c ∈ markChars) :
    spelled [c] = .mark c := by
  have noQuote : c ≠ '"' := by
    rintro rfl
    exact absurd isMark (by decide)
  simp [spelled, isMark]

/-- No mark and no quote is part of a plain word. -/
theorem not_isWord_of_mem {c : Char} (member : c ∈ '"' :: markChars) :
    isWord c = false := by
  have all : ∀ c ∈ '"' :: markChars, isWord c = false := by decide
  exact all c member

theorem spelled_word {characters : List Char}
    (plain : characters.all isWord = true) :
    spelled characters = wordLexeme characters := by
  unfold spelled
  split
  · have quote : isWord '"' = true := by
      simpa using List.all_eq_true.mp plain '"' (by simp)
    exact absurd quote (by decide)
  · rename_i c _
    have inWord : isWord c = true := List.all_eq_true.mp plain c (by simp)
    have noMark : c ∉ markChars := by
      intro isMark
      simp [not_isWord_of_mem (List.mem_cons_of_mem _ isMark)] at inWord
    simp [noMark]
  · rfl

theorem spelled_inQuotes (content : List Char) :
    spelled (inQuotes content) = .text (inQuotes content) :=
  rfl

/-! ## Null characters -/

/-- Whether an expression goes on behind a character. -/
def isNoNull (c : Char) : Bool :=
  c.toNat != 0

theorem takeWhile_isNoNull_of_all {text : List Char}
    (noNull : ∀ c ∈ text, isNoNull c = true) (rest : List Char) :
    (text ++ rest).takeWhile isNoNull = text ++ rest.takeWhile isNoNull :=
  List.takeWhile_append_of_pos noNull

theorem isEnd_takeWhile {rest : List Char} (ends : IsEnd rest) :
    IsEnd (rest.takeWhile isNoNull) := by
  rcases ends with rfl | ⟨others, rfl⟩
  · exact Or.inl rfl
  · exact Or.inr ⟨others.takeWhile isNoNull, rfl⟩

/-- A null character in a quoted text takes away what is behind it. -/
theorem takeWhile_doubled (content rest : List Char) :
    (doubled content ++ rest).takeWhile isNoNull =
      doubled (content.takeWhile isNoNull) ++
        if content.all isNoNull then rest.takeWhile isNoNull else [] := by
  induction content with
  | nil => rfl
  | cons c content ih =>
      by_cases null : isNoNull c = false
      · have noQuote : c ≠ '"' := by
          rintro rfl
          exact absurd null (by decide)
        simp [doubled, noQuote, null]
      · have goesOn : isNoNull c = true := by simpa using null
        by_cases quote : c = '"'
        · subst quote
          simp [doubled_quote, goesOn, ih]
        · simp [doubled_cons_of_ne quote, goesOn, ih]

/-! ## Cutting -/

theorem lexemesFrom_unclosed (content begun : List Char) :
    lexemesFrom (.quoted begun) (doubled content) =
      ([], some .unterminatedText) := by
  induction content generalizing begun with
  | nil => rfl
  | cons c content ih =>
      by_cases quote : c = '"'
      · subst quote
        rw [doubled_quote, lexemesFrom, ih]
      · rw [doubled_cons_of_ne quote, lexemesFrom, ih]
        · exact fun _ same => absurd same quote
        · exact quote

/-- Cutting fails at an unclosed part. -/
theorem lexemesFrom_quote (content : List Char) :
    (lexemesFrom .nothing ('"' :: doubled content)).2 ≠ none := by
  have begins : PartialLexeme.begin '"' = .ok ([], .quoted ['"']) := rfl
  rw [lexemesFrom, begins]
  simp [lexemesFrom_unclosed]

/-- A legible part is cut into its lexeme, or cutting fails. -/
theorem lexemesFrom_legible {part : List Char} (legible : IsLegible part)
    {rest : List Char} (ends : IsEnd rest)
    (complete :
      (lexemesFrom .nothing ((part ++ rest).takeWhile isNoNull)).2 = none) :
    lexemesFrom .nothing ((part ++ rest).takeWhile isNoNull) =
      withFront [spelled part]
        (lexemesFrom .nothing (rest.takeWhile isNoNull)) := by
  cases legible with
  | @mark c isMark =>
      have noNull : ∀ c ∈ markChars, isNoNull c = true := by decide
      rw [takeWhile_isNoNull_of_all (by simpa using noNull c isMark),
        spelled_mark isMark]
      exact lexemesFrom_mark (List.mem_cons_of_mem _ isMark) _
  | word nonempty plain =>
      have inWord : ∀ c ∈ part, isWord c = true := List.all_eq_true.mp plain
      have noNull : ∀ c ∈ part, isNoNull c = true := by
        intro c member
        by_contra isNull
        have zero : c.toNat = 0 := by simpa [isNoNull] using isNull
        have null : c = Char.ofNat 0 := by
          rw [← zero, Char.ofNat_toNat]
        subst null
        exact absurd (inWord _ member) (by decide)
      rw [takeWhile_isNoNull_of_all noNull, spelled_word plain]
      exact lexemesFrom_word nonempty
        (fun c member => isPlainChar_of_isWord (inWord c member))
        (head?_of_isEnd (isEnd_takeWhile ends))
  | quoted content =>
      have goesOn : isNoNull '"' = true := rfl
      -- A null character inside takes the closing quote away.
      cases all : content.all isNoNull with
      | false =>
          rw [inQuotes_append, List.takeWhile_cons_of_pos goesOn,
            takeWhile_doubled, all] at complete
          simp only [Bool.false_eq_true, if_false, List.append_nil] at complete
          exact absurd complete (lexemesFrom_quote _)
      | true =>
          have kept : content.takeWhile isNoNull = content :=
            List.takeWhile_eq_self_iff.mpr (List.all_eq_true.mp all)
          have cut : (inQuotes content ++ rest).takeWhile isNoNull =
              inQuotes content ++ rest.takeWhile isNoNull := by
            rw [inQuotes_append, inQuotes_append,
              List.takeWhile_cons_of_pos goesOn, takeWhile_doubled, all, kept,
              if_pos rfl, List.takeWhile_cons_of_pos goesOn]
          rw [cut, spelled_inQuotes]
          exact lexemesFrom_inQuotes content (isEnd_takeWhile ends)

/-- Cutting fails at an unclosed part. -/
theorem lexemesFrom_unclosedPart {part : List Char}
    (unclosed : IsUnclosed part) :
    (lexemesFrom .nothing (part.takeWhile isNoNull)).2 ≠ none := by
  rcases unclosed with ⟨content, rfl⟩
  have goesOn : isNoNull '"' = true := rfl
  have cut : (doubled content).takeWhile isNoNull =
      doubled (content.takeWhile isNoNull) := by
    simpa using takeWhile_doubled content []
  rw [List.takeWhile_cons_of_pos goesOn, cut]
  exact lexemesFrom_quote _

/-- Legible parts with a blank in front of each are cut into their lexemes, or
cutting fails. -/
theorem lexemesFrom_spacedParts {parts : List (List Char)}
    (legible : AreLegible parts)
    (complete :
      (lexemesFrom .nothing ((spaced parts).takeWhile isNoNull)).2 = none) :
    lexemesFrom .nothing ((spaced parts).takeWhile isNoNull) =
      (parts.map spelled, none) := by
  induction parts with
  | nil => rfl
  | cons part parts ih =>
      have front : (spaced (part :: parts)).takeWhile isNoNull =
          ' ' :: (part ++ spaced parts).takeWhile isNoNull := rfl
      rw [front, lexemesFrom_blank] at complete ⊢
      rcases legible with ⟨here | ⟨unclosed, rfl⟩, others⟩
      · have cut := lexemesFrom_legible here (isEnd_spaced parts) complete
        rw [cut] at complete ⊢
        rw [ih others complete]
        rfl
      · rw [spaced, List.flatMap_nil, List.append_nil] at complete
        exact absurd complete (lexemesFrom_unclosedPart unclosed)

/-- Legible parts are cut into their lexemes, or cutting fails. -/
theorem lexemes_legible {parts : List (List Char)} (legible : AreLegible parts)
    (complete : (lexemes ([' '].intercalate parts)).2 = none) :
    (lexemes ([' '].intercalate parts)).1 = parts.map spelled := by
  cases parts with
  | nil => rfl
  | cons part parts =>
      have spacedParts :
          lexemesFrom .nothing ((spaced (part :: parts)).takeWhile isNoNull) =
            lexemes ([' '].intercalate (part :: parts)) := by
        rw [intercalate_cons]
        rfl
      rw [← spacedParts] at complete ⊢
      rw [lexemesFrom_spacedParts legible complete]

/-! ## Tokens -/

/-- A token that is cut out of a query as it is, and whose quotes are in
order. -/
def Token.IsWhole : Token → Prop
  | mark c => c ∈ markChars
  | quoted written => ∃ content, written = inQuotes content
  | braced written => ∃ content, written = doubled content
  | word written => written ≠ [] ∧ ∀ c ∈ written, isWordChar c = true

/-- A quoted token without its closing quote. -/
def Token.IsUnclosed : Token → Prop
  | quoted written => Query.IsUnclosed written
  | _ => False

/-- Whole tokens, the last of which may be unclosed. -/
def AreWhole : List Token → Prop
  | [] => True
  | token :: others =>
    (token.IsWhole ∨ token.IsUnclosed ∧ others = []) ∧ AreWhole others

/-- The quotes of every braced text come in pairs. -/
def HasPairedBraces (text : List Char) : Prop :=
  ∀ written, .braced written ∈ tokens text →
    ∃ content, written = doubled content

/-- What is known of a begun token. -/
def Partial.IsSound : Partial → Prop
  | nothing => True
  | word characters =>
    characters ≠ [] ∧ ∀ c ∈ characters, isWordChar c = true
  | quoted characters =>
    ∃ content, characters.reverse = '"' :: doubled content
  | braced _ => True

theorem AreWhole.append {front back : List Token}
    (whole : ∀ token ∈ front, token.IsWhole) (others : AreWhole back) :
    AreWhole (front ++ back) := by
  induction front with
  | nil => exact others
  | cons token front ih =>
      refine ⟨Or.inl (whole token (by simp)), ih ?_⟩
      intro other member
      exact whole other (by simp [member])

theorem AreWhole.of_mem {tokens : List Token} (whole : AreWhole tokens)
    {token : Token} (member : token ∈ tokens) :
    token.IsWhole ∨ token.IsUnclosed := by
  induction tokens with
  | nil => cases member
  | cons first others ih =>
      rcases List.mem_cons.mp member with rfl | inside
      · exact whole.1.imp_right And.left
      · exact ih whole.2 inside

/-- What begins with a character outside quotes and braces. -/
theorem Partial.begin_sound {c : Char} {complete : List Token}
    {begun : Partial} (begins : Partial.begin c = (complete, begun)) :
    (∀ token ∈ complete, token = .mark c ∧ c ∈ markChars) ∧ begun.IsSound := by
  unfold Partial.begin at begins
  split at begins
  · cases begins
    exact ⟨by simp, trivial⟩
  · rename_i noBlank
    split at begins
    · cases begins
      exact ⟨by simp, [], rfl⟩
    · rename_i noQuote
      split at begins
      · cases begins
        exact ⟨by simp, trivial⟩
      · rename_i noBrace
        split at begins
        · rename_i isMark
          cases begins
          exact ⟨by simpa using isMark, trivial⟩
        · rename_i noMark
          cases begins
          refine ⟨by simp, by simp, ?_⟩
          intro other member
          obtain rfl := List.mem_singleton.mp member
          exact isWordChar_iff.mpr ⟨by simpa using noBlank,
            by simpa using noMark, by simpa using noQuote,
            by simpa using noBrace⟩

/-- A text is cut into whole tokens, if the quotes in its braces are paired. -/
theorem areWhole_tokensFrom {begun : Partial} {text : List Char}
    (sound : begun.IsSound)
    (paired : ∀ written, .braced written ∈ tokensFrom begun text →
      ∃ content, written = doubled content) :
    AreWhole (tokensFrom begun text) := by
  induction begun, text using tokensFrom.induct with
  | case1 begun =>
      rw [tokensFrom.eq_def] at paired ⊢
      cases begun with
      | nothing => trivial
      | word characters =>
          refine ⟨Or.inl ⟨by simpa using sound.1, ?_⟩, trivial⟩
          simpa using sound.2
      | quoted characters => exact ⟨Or.inr ⟨sound, rfl⟩, trivial⟩
      | braced characters =>
          exact ⟨Or.inl (paired _ (by simp [Partial.finish])), trivial⟩
  | case2 characters rest ih =>
      rcases sound with ⟨content, written⟩
      rw [tokensFrom] at paired ⊢
      refine ih ⟨content ++ ['"'], ?_⟩ paired
      simp [written, doubled]
  | case3 characters rest single ih =>
      rcases sound with ⟨content, written⟩
      rw [tokensFrom] at paired ⊢
      · refine ⟨Or.inl ⟨content, ?_⟩, ih trivial ?_⟩
        · simp [written, inQuotes]
        · intro other member
          exact paired other (by simp [member])
      all_goals exact single
  | case4 characters c rest noPair noQuote ih =>
      rcases sound with ⟨content, written⟩
      rw [tokensFrom] at paired ⊢
      · refine ih ⟨content ++ [c], ?_⟩ paired
        have other : c ≠ '"' := noQuote
        simp [written, doubled, other]
      all_goals assumption
  | case5 characters c rest closes ih =>
      rw [tokensFrom, if_pos closes] at paired ⊢
      refine ⟨Or.inl (paired _ (by simp)), ih trivial ?_⟩
      intro other member
      exact paired other (by simp [member])
  | case6 characters c rest goesOn ih =>
      rw [tokensFrom, if_neg goesOn] at paired ⊢
      exact ih trivial paired
  | case7 characters c rest inWord ih =>
      rw [tokensFrom, if_pos inWord] at paired ⊢
      refine ih ⟨by simp, ?_⟩ paired
      intro other member
      rcases List.mem_cons.mp member with rfl | inside
      · exact inWord
      · exact sound.2 other inside
  | case8 characters c rest noWord complete begun begins ih =>
      rw [tokensFrom, if_neg noWord, begins] at paired ⊢
      rcases Partial.begin_sound begins with ⟨marks, soundBegun⟩
      refine ⟨Or.inl ⟨by simpa using sound.1, by simpa using sound.2⟩, ?_⟩
      refine AreWhole.append ?_ (ih soundBegun ?_)
      · intro token member
        rcases marks token member with ⟨rfl, isMark⟩
        exact isMark
      · intro other member
        exact paired other (by simp [member])
  | case9 c rest complete begun begins ih =>
      rw [tokensFrom, begins] at paired ⊢
      rcases Partial.begin_sound begins with ⟨marks, soundBegun⟩
      refine AreWhole.append ?_ (ih soundBegun ?_)
      · intro token member
        rcases marks token member with ⟨rfl, isMark⟩
        exact isMark
      · intro other member
        exact paired other (by simp [member])

/-- Marks are characters of the text. -/
theorem mem_of_mark_mem {begun : Partial} {text : List Char} {mark : Char}
    (member : .mark mark ∈ tokensFrom begun text) :
    mark ∈ text := by
  induction begun, text using tokensFrom.induct with
  | case1 begun =>
      rw [tokensFrom.eq_def] at member
      cases begun <;> simp [Partial.finish] at member
  | case2 characters rest ih =>
      rw [tokensFrom] at member
      simp [ih member]
  | case3 characters rest single ih =>
      rw [tokensFrom] at member
      · rcases List.mem_cons.mp member with same | inside
        · cases same
        · simp [ih inside]
      · exact single
  | case4 characters c rest noPair noQuote ih =>
      rw [tokensFrom] at member
      · simp [ih member]
      all_goals assumption
  | case5 characters c rest closes ih =>
      rw [tokensFrom, if_pos closes] at member
      rcases List.mem_cons.mp member with same | inside
      · cases same
      · simp [ih inside]
  | case6 characters c rest goesOn ih =>
      rw [tokensFrom, if_neg goesOn] at member
      simp [ih member]
  | case7 characters c rest inWord ih =>
      rw [tokensFrom, if_pos inWord] at member
      simp [ih member]
  | case8 characters c rest noWord complete begun begins ih =>
      rw [tokensFrom, if_neg noWord, begins] at member
      rcases List.mem_cons.mp member with same | behind
      · cases same
      · rcases List.mem_append.mp behind with here | later
        · cases ((Partial.begin_sound begins).1 _ here).1
          simp
        · simp [ih later]
  | case9 c rest complete begun begins ih =>
      rw [tokensFrom, begins] at member
      rcases List.mem_append.mp member with here | later
      · cases ((Partial.begin_sound begins).1 _ here).1
        simp
      · simp [ih later]

theorem mem_of_mem_dropRequiredSigns {text : List Char} {c : Char}
    {begins : Bool} (member : c ∈ dropRequiredSigns begins text) :
    c ∈ text := by
  induction begins, text using dropRequiredSigns.induct with
  | case1 begins => exact member
  | case2 begins => exact member
  | case3 begins next rest drops ih =>
      rw [dropRequiredSigns, if_pos drops] at member
      exact List.mem_cons_of_mem _ (ih member)
  | case4 begins next rest stays ih =>
      rw [dropRequiredSigns, if_neg stays] at member
      rcases List.mem_cons.mp member with rfl | inside
      · simp
      · exact List.mem_cons_of_mem _ (ih inside)
  | case5 begins c' rest _ noPlus ih =>
      rw [dropRequiredSigns] at member
      · rcases List.mem_cons.mp member with rfl | inside
        · simp
        · exact List.mem_cons_of_mem _ (ih inside)
      all_goals assumption

/-- The tokens of a query whose braces have paired quotes. -/
theorem areWhole_tokens {text : List Char} (paired : HasPairedBraces text) :
    AreWhole (tokens text) :=
  areWhole_tokensFrom trivial paired

/-- A query without colons has no colon among its tokens. -/
theorem noColon_tokens {text : List Char} (noColon : ':' ∉ text) :
    .mark ':' ∉ tokens text := by
  intro member
  exact noColon (mem_of_mem_dropRequiredSigns (mem_of_mark_mem member))

end ClusterLog.Query
