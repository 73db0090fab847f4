import ClusterLog.Proofs.Query.Spelling

/-!
# Queries that are cut again

A token that was cut out of a query is cut out again where it stands alone, and
a token that is not the last one is cut out again in front of a blank.  So parts
with single blanks between them are cut into the tokens of each part.

The signs of required texts are dropped from each part on its own.  No part of a
text whose signs are dropped has a sign left, except that what was the end of
the text can become a sign once something is written behind it.
-/

namespace ClusterLog.Query

open Text

/-! ## Signs -/

/-- A phrase can begin behind this character. -/
def IsOpening (c : Char) : Prop :=
  (isBlank c || c == '(') = true

theorem noOpening_plus : ¬ IsOpening '+' :=
  Bool.false_ne_true

theorem noOpening_quote : ¬ IsOpening '"' :=
  Bool.false_ne_true

/-- No plus sign in a text looks like the sign of a required text. -/
def IsSignFree (text : List Char) : Prop :=
  ∀ before behind, [before, '+', behind] <:+: text → IsOpening before →
    (isBlank behind || behind == '+') = true

/-- The last plus sign of a text becomes the sign of whatever is written behind
it without a blank. -/
def EndsInSign (text : List Char) : Prop :=
  ∃ before, [before, '+'] <:+ text ∧ IsOpening before

theorem IsSignFree.within {part text : List Char} (free : IsSignFree text)
    (inside : part <:+: text) :
    IsSignFree part :=
  fun before behind here => free before behind (here.trans inside)

/-- A character is no plus sign if it is neither the last one nor in front of
another one as a plus sign. -/
theorem ne_plus_of_cases {c : Char} {others : List Char}
    (lone : c = '+' → others = [] → False)
    (sign : ∀ next rest, c = '+' → others = next :: rest → False) :
    c ≠ '+' := by
  intro plus
  cases others with
  | nil => exact lone plus rfl
  | cons next rest => exact sign next rest plus rfl

/-- What stands behind a blank does not change which signs are dropped. -/
theorem dropRequiredSigns_append_of_isEnd (part : List Char) {rest : List Char}
    (ends : IsEnd rest) (begins : Bool) :
    dropRequiredSigns begins (part ++ rest) =
      dropRequiredSigns begins part ++ dropRequiredSigns false rest := by
  induction begins, part using dropRequiredSigns.induct with
  | case1 begins => exact dropRequiredSigns_of_isEnd ends begins
  | case2 begins =>
      have blank : isBlank ' ' = true := rfl
      rcases ends with rfl | ⟨others, rfl⟩ <;> simp [dropRequiredSigns, blank]
  | case3 begins next others drops ih =>
      rw [List.cons_append, List.cons_append, dropRequiredSigns, if_pos drops,
        dropRequiredSigns, if_pos drops]
      exact ih
  | case4 begins next others stays ih =>
      rw [List.cons_append, List.cons_append, dropRequiredSigns, if_neg stays,
        dropRequiredSigns, if_neg stays]
      exact congrArg ('+' :: ·) ih
  | case5 begins c others lone sign ih =>
      have noPlus := ne_plus_of_cases lone sign
      rw [List.cons_append, dropRequiredSigns_of_ne noPlus,
        dropRequiredSigns_of_ne noPlus, ih]
      rfl

theorem dropRequiredSigns_spacedParts (parts : List (List Char))
    (begins : Bool) :
    dropRequiredSigns begins (spaced parts) =
      spaced (parts.map (dropRequiredSigns true)) := by
  induction parts generalizing begins with
  | nil => rfl
  | cons part parts ih =>
      have front : spaced (part :: parts) = ' ' :: (part ++ spaced parts) := rfl
      have opens : (isBlank ' ' || ' ' == '(') = true := rfl
      rw [front, dropRequiredSigns_of_ne (by decide), opens,
        dropRequiredSigns_append_of_isEnd part (isEnd_spaced parts), ih]
      rfl

/-- Signs are dropped from each part on its own. -/
theorem dropRequiredSigns_intercalate (parts : List (List Char)) :
    dropRequiredSigns true ([' '].intercalate parts) =
      [' '].intercalate (parts.map (dropRequiredSigns true)) := by
  cases parts with
  | nil => rfl
  | cons part parts =>
      rw [List.map_cons, intercalate_cons, intercalate_cons,
        dropRequiredSigns_append_of_isEnd part (isEnd_spaced parts),
        dropRequiredSigns_spacedParts]

theorem head?_dropRequiredSigns (text : List Char) :
    (dropRequiredSigns false text).head? = text.head? := by
  rcases text with - | ⟨c, others⟩
  · rfl
  · by_cases plus : c = '+'
    · subst plus
      cases others <;> simp [dropRequiredSigns]
    · rw [dropRequiredSigns_of_ne plus]
      rfl

/-- A plus sign that is left where a phrase begins is not a sign. -/
theorem behind_of_dropRequiredSigns {text others : List Char} {behind : Char}
    (left : dropRequiredSigns true text = '+' :: behind :: others) :
    (isBlank behind || behind == '+') = true := by
  rcases text with - | ⟨c, rest⟩
  · cases left
  · by_cases plus : c = '+'
    · subst plus
      rcases rest with - | ⟨next, rest⟩
      · cases left
      · have first := head?_dropRequiredSigns (next :: rest)
        rw [dropRequiredSigns] at left
        split at left
        · rename_i drops
          rw [left] at first
          obtain rfl : '+' = next := Option.some.inj first
          cases drops
        · rename_i stays
          rw [(List.cons.inj left).2] at first
          obtain rfl : behind = next := Option.some.inj first
          simpa [or_iff_not_imp_left] using stays
    · rw [dropRequiredSigns_of_ne plus] at left
      exact absurd (List.cons.inj left).1 plus

/-- No signs are left. -/
theorem isSignFree_dropRequiredSigns (begins : Bool) (text : List Char) :
    IsSignFree (dropRequiredSigns begins text) := by
  induction begins, text using dropRequiredSigns.induct with
  | case1 begins | case2 begins =>
      intro before behind inside
      have short := inside.length_le
      simp [dropRequiredSigns] at short
  | case3 begins next others drops ih =>
      rw [dropRequiredSigns, if_pos drops]
      exact ih
  | case4 begins next others stays ih =>
      rw [dropRequiredSigns, if_neg stays]
      intro before behind inside opening
      rcases List.infix_cons_iff.mp inside with front | inside
      · obtain ⟨rfl, -⟩ := List.cons_prefix_cons.mp front
        exact absurd opening noOpening_plus
      · exact ih before behind inside opening
  | case5 begins c others lone sign ih =>
      have noPlus := ne_plus_of_cases lone sign
      rw [dropRequiredSigns_of_ne noPlus]
      intro before behind inside opening
      rcases List.infix_cons_iff.mp inside with front | inside
      · obtain ⟨rfl, rest, left⟩ := List.cons_prefix_cons.mp front
        have opens : (isBlank before || before == '(') = true := opening
        rw [opens] at left
        exact behind_of_dropRequiredSigns left.symm
      · exact ih before behind inside opening

/-- A text without signs stays as it is behind its first character. -/
theorem dropRequiredSigns_behind {c : Char} {text : List Char}
    (free : IsSignFree (c :: text)) :
    dropRequiredSigns (isBlank c || c == '(') text = text := by
  induction text generalizing c with
  | nil => rfl
  | cons next others ih =>
      have rest := ih (free.within (List.infix_cons List.infix_rfl))
      by_cases plus : next = '+'
      · subst plus
        rcases others with - | ⟨behind, others⟩
        · rfl
        · have stays : ¬ ((isBlank c || c == '(') &&
              !(isBlank behind || behind == '+')) = true := by
            intro drops
            rw [Bool.and_eq_true] at drops
            rw [free c behind ⟨[], others, rfl⟩ drops.1] at drops
            exact absurd drops.2 (by decide)
          rw [dropRequiredSigns, if_neg stays]
          exact congrArg ('+' :: ·) rest
      · rw [dropRequiredSigns_of_ne plus, rest]

theorem dropRequiredSigns_of_free {c : Char} {text : List Char}
    (free : IsSignFree (c :: text)) (noPlus : c ≠ '+') (begins : Bool) :
    dropRequiredSigns begins (c :: text) = c :: text := by
  rw [dropRequiredSigns_of_ne noPlus, dropRequiredSigns_behind free]

/-- Quotes around a text do not make a sign of anything but its end. -/
theorem isSignFree_quotes {text : List Char} (free : IsSignFree text)
    (ends : ¬ EndsInSign text) :
    IsSignFree ('"' :: text ++ ['"']) := by
  intro before behind inside opening
  rw [List.cons_append] at inside
  rcases List.infix_cons_iff.mp inside with front | inside
  · obtain ⟨rfl, -⟩ := List.cons_prefix_cons.mp front
    exact absurd opening noOpening_quote
  · rcases List.infix_concat_iff.mp inside with back | inside
    · rcases List.suffix_concat_iff.mp back with none | ⟨front, split, here⟩
      · cases none
      · obtain ⟨rfl, -⟩ : front = [before, '+'] ∧ '"' = behind := by
          have parts : front ++ ['"'] = [before, '+'] ++ [behind] := split.symm
          simpa using List.append_inj' parts rfl
        exact absurd ⟨before, here, opening⟩ ends
    · exact free before behind inside opening

/-- A part stands in the expression that it is a part of. -/
theorem isInfix_intercalate {part : List Char} {parts : List (List Char)}
    (member : part ∈ parts) :
    part <:+: [' '].intercalate parts := by
  have inside {parts : List (List Char)} (member : part ∈ parts) :
      part <:+: spaced parts := by
    have blank : ' ' :: part <:+: spaced parts :=
      List.infix_of_mem_flatten (List.mem_map_of_mem member)
    exact (List.infix_cons List.infix_rfl).trans blank
  rcases parts with - | ⟨first, others⟩
  · cases member
  · rw [intercalate_cons]
    rcases List.mem_cons.mp member with rfl | behind
    · exact (List.prefix_append _ _).isInfix
    · exact (inside behind).trans (List.suffix_append _ _).isInfix

/-! ## Tokens -/

/-- How a begun token is written so far. -/
def Partial.written : Partial → List Char
  | nothing => []
  | word characters | quoted characters | braced characters =>
    characters.reverse

/-- What a begun token is written as leads to it. -/
def Partial.IsReached (begun : Partial) : Prop :=
  ∀ rest,
    tokensFrom .nothing (begun.written ++ rest) = tokensFrom begun rest

/-- A token of a text that is cut out again where it stands alone. -/
structure Token.IsCutFrom (text : List Char) (token : Token) : Prop where
  inside : token.written <:+: text
  alone : tokensFrom .nothing token.written = [token]

/-- A token that is cut out again in front of a blank. -/
structure Token.IsClosed (token : Token) : Prop where
  apart : ∀ {rest}, IsEnd rest →
    tokensFrom .nothing (token.written ++ rest) =
      token :: tokensFrom .nothing rest
  brace : ∀ {written}, token = .braced written → ['\x7d'] <:+ written

/-- Tokens of a text, the last of which may be unclosed. -/
def AreCutFrom (text : List Char) : List Token → Prop
  | [] => True
  | token :: others =>
    token.IsCutFrom text ∧ (token.IsClosed ∨ others = []) ∧
      AreCutFrom text others

theorem AreCutFrom.within {part text : List Char} (inside : part <:+: text)
    {tokens : List Token} (cut : AreCutFrom part tokens) :
    AreCutFrom text tokens := by
  induction tokens with
  | nil => trivial
  | cons token others ih =>
      rcases cut with ⟨here, closed, behind⟩
      exact ⟨⟨here.inside.trans inside, here.alone⟩, closed, ih behind⟩

theorem isReached_nothing : Partial.IsReached .nothing :=
  fun _ => rfl

/-- A begun token is reached through each of its characters. -/
theorem Partial.IsReached.step {begun next : Partial} {characters : List Char}
    (reached : begun.IsReached)
    (written : next.written = begun.written ++ characters)
    (goesOn : ∀ rest,
      tokensFrom begun (characters ++ rest) = tokensFrom next rest) :
    next.IsReached := by
  intro rest
  rw [written, List.append_assoc, reached, goesOn]

/-- A begun token goes on through some characters. -/
theorem Partial.IsReached.areCutFrom {begun next : Partial}
    (reached : begun.IsReached) (characters : List Char)
    (written : next.written = begun.written ++ characters)
    (goesOn : ∀ rest,
      tokensFrom begun (characters ++ rest) = tokensFrom next rest)
    {rest : List Char}
    (cut : next.IsReached →
      AreCutFrom (next.written ++ rest) (tokensFrom next rest)) :
    AreCutFrom (begun.written ++ (characters ++ rest))
      (tokensFrom begun (characters ++ rest)) := by
  have behind := cut (reached.step written goesOn)
  rw [written, List.append_assoc] at behind
  rw [goesOn]
  exact behind

/-- A begun token ends with a character. -/
theorem Partial.IsReached.areCutFrom_cons {begun : Partial}
    (reached : begun.IsReached) {c : Char} (token : Token)
    (written : token.written = begun.written ++ [c])
    (brace : ∀ {written}, token = .braced written → c = '\x7d')
    (closes : ∀ {rest}, IsEnd rest →
      tokensFrom begun (c :: rest) = token :: tokensFrom .nothing rest)
    {rest : List Char}
    (cut : Partial.IsReached .nothing →
      AreCutFrom rest (tokensFrom .nothing rest)) :
    AreCutFrom (begun.written ++ c :: rest)
      (token :: tokensFrom .nothing rest) := by
  have apart {rest : List Char} (ends : IsEnd rest) :
      tokensFrom .nothing (token.written ++ rest) =
        token :: tokensFrom .nothing rest := by
    rw [written, List.append_assoc, List.singleton_append, reached, closes ends]
  have whole : begun.written ++ c :: rest = token.written ++ rest := by
    rw [written, List.append_assoc, List.singleton_append]
  rw [whole]
  refine ⟨⟨(List.prefix_append _ _).isInfix, ?_⟩, Or.inl ⟨apart, ?_⟩, ?_⟩
  · simpa [tokensFrom, finish] using apart (Or.inl rfl)
  · rintro text rfl
    exact ⟨begun.written, brace rfl ▸ written.symm⟩
  · exact (cut isReached_nothing).within (List.suffix_append _ _).isInfix

/-- A word ends where it stops. -/
theorem Partial.IsReached.word {characters : List Char}
    (reached : (Partial.word characters).IsReached) (rest : List Char) :
    (Token.word characters.reverse).IsCutFrom (characters.reverse ++ rest) ∧
      (Token.word characters.reverse).IsClosed := by
  have apart {rest : List Char} (ends : IsEnd rest) :
      tokensFrom .nothing (characters.reverse ++ rest) =
        .word characters.reverse :: tokensFrom .nothing rest := by
    have none : ∀ c ∈ ([] : List Char), isWordChar c = true := by simp
    have cut := tokensFrom_word none ends characters
    rw [List.nil_append, List.append_nil] at cut
    exact (reached rest).trans cut
  refine ⟨⟨⟨[], rest, rfl⟩, ?_⟩, apart, Token.noConfusion⟩
  simpa [tokensFrom, finish, Token.written] using apart (Or.inl rfl)

/-- What begins with a character is reached, and a mark is complete at once. -/
theorem areCutFrom_begin {c : Char} {complete : List Token} {begun : Partial}
    (begins : Partial.begin c = (complete, begun)) {rest : List Char}
    (cut : begun.IsReached →
      AreCutFrom (begun.written ++ rest) (tokensFrom begun rest)) :
    AreCutFrom (c :: rest) (complete ++ tokensFrom begun rest) := by
  have first (rest : List Char) :
      tokensFrom .nothing (c :: rest) = complete ++ tokensFrom begun rest := by
    rw [tokensFrom, begins]
  have reached (none : complete = []) (written : begun.written = [c]) :
      begun.IsReached := by
    refine isReached_nothing.step written fun rest => ?_
    rw [List.singleton_append, first, none]
    rfl
  unfold Partial.begin at begins
  split at begins
  · cases begins
    exact (cut isReached_nothing).within (List.infix_cons List.infix_rfl)
  · split at begins
    · rename_i quote
      cases begins
      obtain rfl : c = '"' := by simpa using quote
      exact cut (reached rfl rfl)
    · split at begins
      · rename_i brace
        cases begins
        obtain rfl : c = '\x7b' := by simpa using brace
        exact cut (reached rfl rfl)
      · split at begins
        · cases begins
          exact isReached_nothing.areCutFrom_cons (.mark c) rfl
            Token.noConfusion (fun _ => first _) cut
        · cases begins
          exact cut (reached rfl rfl)

/-- A text is cut into tokens that are cut out of it again. -/
theorem areCutFrom_tokensFrom {begun : Partial} {text : List Char}
    (reached : begun.IsReached) :
    AreCutFrom (begun.written ++ text) (tokensFrom begun text) := by
  induction begun, text using tokensFrom.induct with
  | case1 begun =>
      have alone := reached []
      rw [List.append_nil] at alone ⊢
      cases begun with
      | nothing => trivial
      | word characters | quoted characters | braced characters =>
          exact ⟨⟨List.infix_rfl, alone⟩, Or.inr rfl, trivial⟩
  | case2 characters rest ih =>
      refine reached.areCutFrom ['"', '"'] (by simp [Partial.written]) ?_ ih
      intro rest
      rw [List.cons_append, List.cons_append, List.nil_append, tokensFrom]
  | case3 characters rest single ih =>
      rw [tokensFrom]
      · refine reached.areCutFrom_cons (.quoted ('"' :: characters).reverse)
          (by simp [Token.written, Partial.written]) Token.noConfusion ?_ ih
        rintro rest (rfl | ⟨others, rfl⟩) <;> simp [tokensFrom]
      · exact single
  | case4 characters c rest noPair noQuote ih =>
      refine reached.areCutFrom [c] (by simp [Partial.written]) ?_ ih
      intro rest
      rw [List.singleton_append, tokensFrom]
      · exact fun _ same => absurd same noQuote
      · exact noQuote
  | case5 characters c rest closes ih =>
      rw [tokensFrom, if_pos closes]
      refine reached.areCutFrom_cons (.braced (c :: characters).reverse)
        (by simp [Token.written, Partial.written]) ?_ ?_ ih
      · exact fun _ => by simpa using closes
      · exact fun _ => by rw [tokensFrom, if_pos closes]
  | case6 characters c rest goesOn ih =>
      refine reached.areCutFrom [c] (by simp [Partial.written]) ?_ ih
      intro rest
      rw [List.singleton_append, tokensFrom, if_neg goesOn]
  | case7 characters c rest inWord ih =>
      refine reached.areCutFrom [c] (by simp [Partial.written]) ?_ ih
      intro rest
      rw [List.singleton_append, tokensFrom, if_pos inWord]
  | case8 characters c rest noWord complete begun begins ih =>
      rw [tokensFrom, if_neg noWord, begins]
      have word := reached.word (c :: rest)
      refine ⟨word.1, Or.inl word.2, ?_⟩
      exact (areCutFrom_begin begins ih).within (List.suffix_append _ _).isInfix
  | case9 c rest complete begun begins ih =>
      rw [tokensFrom, begins]
      exact areCutFrom_begin begins ih

theorem AreCutFrom.isCutFrom {text : List Char} {tokens : List Token}
    (cut : AreCutFrom text tokens) {token : Token} (member : token ∈ tokens) :
    token.IsCutFrom text := by
  induction tokens with
  | nil => cases member
  | cons first others ih =>
      rcases cut with ⟨here, -, behind⟩
      rcases List.mem_cons.mp member with rfl | inside
      · exact here
      · exact ih behind inside

theorem areCutFrom_tokens (text : List Char) :
    AreCutFrom (dropRequiredSigns true text) (tokens text) :=
  areCutFrom_tokensFrom isReached_nothing

/-! ## Parts -/

/-- A part of an expression that is one token, once its signs are dropped. -/
structure IsReadAs (part : List Char) (token : Token) : Prop where
  written : dropRequiredSigns true part = token.written
  alone : tokensFrom .nothing token.written = [token]

theorem IsReadAs.tokens_eq {part : List Char} {token : Token}
    (read : IsReadAs part token) :
    tokens part = [token] := by
  rw [tokens, read.written, read.alone]

/-- A part that is cut apart is one closed token. -/
theorem isReadAs_of_apart {part : List Char} (token : Token)
    (written : dropRequiredSigns true part = token.written)
    (apart : ∀ {rest}, IsEnd rest →
      tokensFrom .nothing (token.written ++ rest) =
        token :: tokensFrom .nothing rest)
    (noBrace : ∀ written, token ≠ .braced written) :
    IsReadAs part token ∧ token.IsClosed := by
  refine ⟨⟨written, ?_⟩, apart, fun same => absurd same (noBrace _)⟩
  simpa [tokensFrom, Partial.finish] using apart (Or.inl rfl)

theorem isReadAs_mark {c : Char} (isMark : c ∈ markChars) :
    IsReadAs [c] (.mark c) ∧ (Token.mark c).IsClosed := by
  refine isReadAs_of_apart (.mark c) ?_ ?_ fun _ => Token.noConfusion
  · by_cases plus : c = '+'
    · subst plus
      rfl
    · exact dropRequiredSigns_of_ne plus true []
  · intro rest _
    rw [Token.written, List.singleton_append, tokensFrom,
      begin_of_mem_markChars isMark]
    rfl

theorem isReadAs_word {characters : List Char} (nonempty : characters ≠ [])
    (inWord : ∀ c ∈ characters, isWordChar c = true) :
    IsReadAs characters (.word characters) ∧
      (Token.word characters).IsClosed := by
  have noPlus : ∀ c ∈ characters, c ≠ '+' :=
    fun c member => ne_plus_of_isWordChar (inWord c member)
  refine isReadAs_of_apart (.word characters) ?_ ?_ fun _ =>
    Token.noConfusion
  · simpa [dropRequiredSigns, Token.written] using
      dropRequiredSigns_append noPlus (Or.inl rfl) true
  · intro rest ends
    rcases List.exists_cons_of_ne_nil nonempty with ⟨first, others, rfl⟩
    have wordOthers : ∀ c ∈ others, isWordChar c = true :=
      fun c member => inWord c (by simp [member])
    have begins := begin_of_isWordChar (inWord first (by simp))
    rw [Token.written, List.cons_append, tokensFrom, begins]
    exact tokensFrom_word wordOthers ends [first]

theorem isReadAs_inQuotes (content : List Char) :
    IsReadAs (inQuotes content)
        (.quoted (inQuotes (dropSigns false content))) ∧
      (Token.quoted (inQuotes (dropSigns false content))).IsClosed := by
  refine isReadAs_of_apart (.quoted (inQuotes (dropSigns false content)))
    ?_ ?_ fun _ => Token.noConfusion
  · simpa [dropRequiredSigns, Token.written] using
      dropRequiredSigns_inQuotes content [] true
  · intro rest ends
    have begins : Partial.begin '"' = ([], .quoted ['"']) := rfl
    rw [Token.written, inQuotes_append, tokensFrom, begins]
    exact tokensFrom_quoted (dropSigns false content) ends ['"']

/-- A token of a query is read as itself. -/
theorem isReadAs_of_isCutFrom {text : List Char} {token : Token}
    (cut : token.IsCutFrom (dropRequiredSigns true text)) :
    IsReadAs token.written token := by
  refine ⟨?_, cut.alone⟩
  have free := (isSignFree_dropRequiredSigns true text).within cut.inside
  have alone := cut.alone
  cases written : token.written with
  | nil =>
      rw [written] at alone
      cases alone
  | cons c others =>
      rw [written] at free
      by_cases plus : c = '+'
      · subst plus
        have begins : Partial.begin '+' = ([.mark '+'], .nothing) := rfl
        rw [written, tokensFrom, begins] at alone
        obtain rfl : .mark '+' = token := (List.cons.inj alone).1
        obtain rfl : others = [] := (List.cons.inj written).2.symm
        rfl
      · exact dropRequiredSigns_of_free free plus true

/-- A part that is cut apart from whatever stands behind a blank. -/
def IsSeparate (part : List Char) : Prop :=
  ∀ ⦃rest⦄, IsEnd rest →
    tokensFrom .nothing (dropRequiredSigns true part ++ rest) =
      tokens part ++ tokensFrom .nothing rest

/-- Parts that are cut apart. -/
def AreSeparate : List (List Char) → Prop
  | [] => True
  | part :: others => (IsSeparate part ∨ others = []) ∧ AreSeparate others

theorem IsReadAs.isSeparate {part : List Char} {token : Token}
    (read : IsReadAs part token) (closed : token.IsClosed) :
    IsSeparate part := by
  intro rest ends
  rw [read.written, read.tokens_eq]
  exact closed.apart ends

theorem AreSeparate.append {front back : List (List Char)}
    (separate : ∀ part ∈ front, IsSeparate part) (others : AreSeparate back) :
    AreSeparate (front ++ back) := by
  induction front with
  | nil => exact others
  | cons part front ih =>
      refine ⟨Or.inl (separate part (by simp)), ih ?_⟩
      intro other member
      exact separate other (by simp [member])

theorem AreSeparate.tokensFrom_cons {part : List Char}
    {others : List (List Char)} (separate : AreSeparate (part :: others)) :
    tokensFrom .nothing
        (dropRequiredSigns true part ++
          spaced (others.map (dropRequiredSigns true))) =
      (part :: others).flatMap tokens := by
  induction others generalizing part with
  | nil => simp [spaced, tokens]
  | cons next others ih =>
      have behind := ih separate.2
      have apart : IsSeparate part := 
        separate.1.resolve_right (List.cons_ne_nil next others)
      have front :
          spaced ((next :: others).map (dropRequiredSigns true)) =
            ' ' :: (dropRequiredSigns true next ++
              spaced (others.map (dropRequiredSigns true))) := rfl
      rw [apart (isEnd_spaced _), front, tokensFrom_blank, behind]
      rfl

/-- Parts with single blanks between them are cut into the tokens of each. -/
theorem AreSeparate.tokens_intercalate {parts : List (List Char)}
    (separate : AreSeparate parts) :
    tokens ([' '].intercalate parts) = parts.flatMap tokens := by
  rw [tokens, dropRequiredSigns_intercalate]
  cases parts with
  | nil => rfl
  | cons part others =>
      rw [List.map_cons, intercalate_cons]
      exact separate.tokensFrom_cons

end ClusterLog.Query
