import ClusterLog.Proofs.Query.Written
import ClusterLog.Proofs.Text.Class

/-!
# The tokens of written queries

Pieces with single blanks between them are cut into exactly the tokens that the
pieces stand for.  The signs of required texts are dropped, and so are the plus
signs in quoted texts that look like such signs.
-/

namespace ClusterLog.Query

open Text

/-! ## Pieces in a row -/

/-- What stands behind a piece: nothing, or a blank and other pieces. -/
def IsEnd (rest : List Char) : Prop :=
  rest = [] ∨ ∃ others, rest = ' ' :: others

/-- Texts with a blank in front of each. -/
def spaced (texts : List (List Char)) : List Char :=
  texts.flatMap (' ' :: ·)

theorem intercalate_cons (first : List Char) (others : List (List Char)) :
    [' '].intercalate (first :: others) = first ++ spaced others := by
  induction others generalizing first with
  | nil => simp [List.intercalate_singleton, spaced]
  | cons second others ih =>
      rw [List.intercalate_cons_cons, ih]
      simp [spaced]

theorem isEnd_spaced (texts : List (List Char)) : IsEnd (spaced texts) := by
  cases texts with
  | nil => exact Or.inl rfl
  | cons first others => exact Or.inr ⟨first ++ spaced others, rfl⟩

/-! ## Characters -/

theorem isWordChar_iff {c : Char} :
    isWordChar c = true ↔
      isBlank c = false ∧ c ∉ markChars ∧ c ≠ '"' ∧ c ≠ '\x7b' := by
  simp [isWordChar, and_assoc]

theorem ne_plus_of_isWordChar {c : Char} (inWord : isWordChar c = true) :
    c ≠ '+' := by
  rintro rfl
  exact (isWordChar_iff.mp inWord).2.1 (by decide)

theorem of_mem_name {column : Column} {c : Char}
    (member : c ∈ column.name.toList) :
    isWordChar c = true ∧ c.toNat ≠ 0 := by
  have all : ∀ column : Column, ∀ c ∈ column.name.toList,
      isWordChar c = true ∧ c.toNat ≠ 0 := by
    intro column
    cases column <;> decide
  exact all column c member

theorem of_mem_namesText {isPadded : Bool} {first : Column}
    {others : List Column} {c : Char}
    (member : c ∈ namesText isPadded first others) :
    c ≠ '\x7d' ∧ c ≠ '+' ∧ c.toNat ≠ 0 := by
  have blank : ' ' ≠ '\x7d' ∧ ' ' ≠ '+' ∧ (' ').toNat ≠ 0 := by decide
  have name : ∀ column : Column, c ∈ column.name.toList →
      c ≠ '\x7d' ∧ c ≠ '+' ∧ c.toNat ≠ 0 := by
    intro column inside
    rcases of_mem_name inside with ⟨inWord, noNull⟩
    refine ⟨?_, ne_plus_of_isWordChar inWord, noNull⟩
    rintro rfl
    exact absurd inWord (by decide)
  have padding : c ∈ (if isPadded then [' '] else []) → c = ' ' := by
    cases isPadded <;> simp
  simp only [namesText, List.mem_append, List.mem_flatMap, List.mem_cons]
    at member
  rcases member with ((front | here) | ⟨column, -, rfl | inside⟩) | back
  · exact padding front ▸ blank
  · exact name first here
  · exact blank
  · exact name column inside
  · exact padding back ▸ blank

/-! ## Required signs -/

theorem dropRequiredSigns_plus {rest : List Char} (nonempty : rest ≠ [])
    (begins : Bool) :
    dropRequiredSigns begins ('+' :: rest) =
      if begins && !rest.head?.any fun next => isBlank next || next == '+' then
        dropRequiredSigns false rest
      else
        '+' :: dropRequiredSigns false rest := by
  cases rest with
  | nil => exact absurd rfl nonempty
  | cons next rest => rw [dropRequiredSigns]; rfl

/-- What stands behind a piece does not depend on the piece. -/
theorem dropRequiredSigns_of_isEnd {rest : List Char} (ends : IsEnd rest)
    (begins : Bool) :
    dropRequiredSigns begins rest = dropRequiredSigns false rest := by
  rcases ends with rfl | ⟨others, rfl⟩
  · rfl
  · rw [dropRequiredSigns_of_ne (by decide), dropRequiredSigns_of_ne (by decide)]

/-- Texts without plus signs stay as they are. -/
theorem dropRequiredSigns_append {characters rest : List Char}
    (noPlus : ∀ c ∈ characters, c ≠ '+')
    (ends : IsEnd rest) (begins : Bool) :
    dropRequiredSigns begins (characters ++ rest) =
      characters ++ dropRequiredSigns false rest := by
  induction characters generalizing begins with
  | nil => exact dropRequiredSigns_of_isEnd ends begins
  | cons c characters ih =>
      have others : ∀ c ∈ characters, c ≠ '+' :=
        fun c member => noPlus c (by simp [member])
      rw [List.cons_append, dropRequiredSigns_of_ne (noPlus c (by simp)),
        ih others]
      rfl

/-- The plus signs of a quoted text are dropped up to its closing quote. -/
theorem dropRequiredSigns_doubled (content rest : List Char) (begins : Bool) :
    dropRequiredSigns begins (doubled content ++ '"' :: rest) =
      doubled (dropSigns begins content) ++
        '"' :: dropRequiredSigns false rest := by
  induction content generalizing begins with
  | nil => exact dropRequiredSigns_of_ne (by decide) begins rest
  | cons c content ih =>
      by_cases plus : c = '+'
      · subst plus
        have next :
            (doubled content ++ '"' :: rest).head?.any
                (fun next => isBlank next || next == '+') =
              content.head?.any fun next => isBlank next || next == '+' := by
          cases content with
          | nil => rfl
          | cons second content =>
              by_cases quote : second = '"'
              · subst quote
                rfl
              · rw [doubled_cons_of_ne quote]
                rfl
        have nonempty : doubled content ++ '"' :: rest ≠ [] := by simp
        rw [doubled_cons_of_ne (by decide), List.cons_append,
          dropRequiredSigns_plus nonempty, next, ih, dropSigns]
        split <;> rfl
      · by_cases quote : c = '"'
        · subst quote
          rw [doubled_quote, List.cons_append, List.cons_append,
            dropRequiredSigns_of_ne (by decide),
            dropRequiredSigns_of_ne (by decide)]
          exact congrArg ('"' :: '"' :: ·) (ih false)
        · have back : dropSigns begins (c :: content) =
              c :: dropSigns (isBlank c || c == '(') content := by
            simp [dropSigns]
          rw [back, doubled_cons_of_ne quote, doubled_cons_of_ne quote,
            List.cons_append, dropRequiredSigns_of_ne plus, ih]
          rfl

theorem dropRequiredSigns_inQuotes (content rest : List Char) (begins : Bool) :
    dropRequiredSigns begins (inQuotes content ++ rest) =
      inQuotes (dropSigns false content) ++ dropRequiredSigns false rest := by
  rw [inQuotes_append, dropRequiredSigns_of_ne (by decide), inQuotes_append]
  exact congrArg ('"' :: ·) (dropRequiredSigns_doubled content rest false)

/-- The sign in front of a required text is dropped. -/
theorem dropRequiredSigns_sign {c : Char} {rest : List Char}
    (isRequired : Bool) (noBlank : isBlank c = false) (noPlus : c ≠ '+') :
    ∃ begins,
      dropRequiredSigns true (Piece.sign isRequired ++ c :: rest) =
        dropRequiredSigns begins (c :: rest) := by
  cases isRequired with
  | false => exact ⟨true, rfl⟩
  | true =>
      refine ⟨false, ?_⟩
      have next :
          (c :: rest).head?.any (fun next => isBlank next || next == '+') =
            false := by simp [noBlank, noPlus]
      have front : Piece.sign true ++ c :: rest = '+' :: c :: rest := rfl
      rw [front, dropRequiredSigns_plus (by simp), next]
      rfl

/-- Behind a blank or at the beginning, a piece becomes its token. -/
theorem dropRequiredSigns_piece {piece : Piece} (sound : piece.IsSound)
    {rest : List Char} (ends : IsEnd rest) :
    dropRequiredSigns true (piece.written ++ rest) =
      piece.token.written ++ dropRequiredSigns false rest := by
  cases piece with
  | mark c =>
      by_cases plus : c = '+'
      · subst plus
        rcases ends with rfl | ⟨others, rfl⟩ <;> rfl
      · exact dropRequiredSigns_append (by simpa [Piece.written] using plus)
          ends true
  | word isRequired characters =>
      rcases sound with ⟨nonempty, inWord⟩
      rcases List.exists_cons_of_ne_nil nonempty with ⟨first, others, rfl⟩
      have noPlus : ∀ c ∈ first :: others, c ≠ '+' :=
        fun c member => ne_plus_of_isWordChar (inWord c member).1
      have wordFirst := isWordChar_iff.mp (inWord first (by simp)).1
      obtain ⟨begins, dropped⟩ :
          ∃ begins, dropRequiredSigns true
              (Piece.sign isRequired ++ first :: (others ++ rest)) =
            dropRequiredSigns begins (first :: (others ++ rest)) :=
        dropRequiredSigns_sign isRequired wordFirst.1 (noPlus first (by simp))
      rw [Piece.written, List.append_assoc, List.cons_append, dropped]
      exact dropRequiredSigns_append noPlus ends begins
  | quoted isRequired content =>
      obtain ⟨begins, dropped⟩ :
          ∃ begins, dropRequiredSigns true
              (Piece.sign isRequired ++ (inQuotes content ++ rest)) =
            dropRequiredSigns begins (inQuotes content ++ rest) :=
        dropRequiredSigns_sign isRequired (by decide) (by decide)
      rw [Piece.written, List.append_assoc, dropped]
      exact dropRequiredSigns_inQuotes content rest begins
  | braced isPadded first others =>
      refine dropRequiredSigns_append ?_ ends true
      intro c member
      simp only [Piece.written, List.mem_append, List.mem_cons] at member
      rcases member with (rfl | inside) | rfl | none
      · decide
      · exact (of_mem_namesText inside).2.1
      · decide
      · cases none

theorem dropRequiredSigns_spaced {pieces : List Piece}
    (sound : ∀ piece ∈ pieces, piece.IsSound) (begins : Bool) :
    dropRequiredSigns begins (spaced (pieces.map (·.written))) =
      spaced (pieces.map fun piece => piece.token.written) := by
  induction pieces generalizing begins with
  | nil => rfl
  | cons piece pieces ih =>
      have others : ∀ other ∈ pieces, other.IsSound :=
        fun other member => sound other (by simp [member])
      have front :
          spaced ((piece :: pieces).map (·.written)) =
            ' ' :: (piece.written ++ spaced (pieces.map (·.written))) := rfl
      have blank : (isBlank ' ' || ' ' == '(') = true := rfl
      rw [front, dropRequiredSigns_of_ne (by decide), blank,
        dropRequiredSigns_piece (sound piece (by simp)) (isEnd_spaced _),
        ih others]
      rfl

/-! ## Cutting -/

theorem begin_of_isWordChar {c : Char} (inWord : isWordChar c = true) :
    Partial.begin c = ([], .word [c]) := by
  rcases isWordChar_iff.mp inWord with ⟨noBlank, noMark, noQuote, noBrace⟩
  simp [Partial.begin, noBlank, noMark, noQuote, noBrace]

theorem begin_of_mem_markChars {c : Char} (isMark : c ∈ markChars) :
    Partial.begin c = ([.mark c], .nothing) := by
  have all : ∀ c ∈ markChars, isBlank c = false ∧ c ≠ '"' ∧ c ≠ '\x7b' := by
    decide
  rcases all c isMark with ⟨noBlank, noQuote, noBrace⟩
  simp [Partial.begin, noBlank, isMark, noQuote, noBrace]

theorem tokensFrom_word {characters rest : List Char}
    (inWord : ∀ c ∈ characters, isWordChar c = true)
    (ends : IsEnd rest) (begun : List Char) :
    tokensFrom (.word begun) (characters ++ rest) =
      .word (begun.reverse ++ characters) :: tokensFrom .nothing rest := by
  induction characters generalizing begun with
  | nil =>
      rcases ends with rfl | ⟨others, rfl⟩
      · simp [tokensFrom, Partial.finish]
      · have noWord : isWordChar ' ' = false := by decide
        have blank : Partial.begin ' ' = ([], .nothing) := rfl
        simp [tokensFrom, noWord, blank]
  | cons c characters ih =>
      have others : ∀ other ∈ characters, isWordChar other = true :=
        fun other member => inWord other (by simp [member])
      rw [List.cons_append, tokensFrom, if_pos (inWord c (by simp)), ih others]
      simp

theorem tokensFrom_quoted (content : List Char) {rest : List Char}
    (ends : IsEnd rest) (begun : List Char) :
    tokensFrom (.quoted begun) (doubled content ++ '"' :: rest) =
      .quoted (begun.reverse ++ doubled content ++ ['"']) ::
        tokensFrom .nothing rest := by
  induction content generalizing begun with
  | nil =>
      rcases ends with rfl | ⟨others, rfl⟩ <;> simp [doubled, tokensFrom]
  | cons c content ih =>
      by_cases quote : c = '"'
      · subst quote
        rw [doubled_quote, List.cons_append, List.cons_append, tokensFrom, ih]
        simp
      · rw [doubled_cons_of_ne quote, List.cons_append, tokensFrom, ih]
        · simp
        · exact fun _ same => absurd same quote
        · exact quote

theorem tokensFrom_braced {content : List Char}
    (noBrace : ∀ c ∈ content, c ≠ '\x7d') (rest begun : List Char) :
    tokensFrom (.braced begun) (content ++ '\x7d' :: rest) =
      .braced (begun.reverse ++ content ++ ['\x7d']) ::
        tokensFrom .nothing rest := by
  induction content generalizing begun with
  | nil => simp [tokensFrom]
  | cons c content ih =>
      have others : ∀ other ∈ content, other ≠ '\x7d' :=
        fun other member => noBrace other (by simp [member])
      have here : c ≠ '\x7d' := noBrace c (by simp)
      rw [List.cons_append, tokensFrom, if_neg (by simpa using here), ih others]
      simp

/-- The token of a piece is cut out as it is. -/
theorem tokensFrom_piece {piece : Piece} (sound : piece.IsSound)
    {rest : List Char} (ends : IsEnd rest) :
    tokensFrom .nothing (piece.token.written ++ rest) =
      piece.token :: tokensFrom .nothing rest := by
  cases piece with
  | mark c =>
      simp only [Piece.token, Token.written, List.cons_append, List.nil_append,
        tokensFrom, begin_of_mem_markChars sound]
  | word isRequired characters =>
      rcases sound with ⟨nonempty, inWord⟩
      rcases List.exists_cons_of_ne_nil nonempty with ⟨first, others, rfl⟩
      have wordOthers : ∀ c ∈ others, isWordChar c = true :=
        fun c member => (inWord c (by simp [member])).1
      simp only [Piece.token, Token.written, List.cons_append, tokensFrom,
        begin_of_isWordChar (inWord first (by simp)).1, List.nil_append]
      rw [tokensFrom_word wordOthers ends]
      simp
  | quoted isRequired content =>
      have begins : Partial.begin '"' = ([], .quoted ['"']) := rfl
      rw [Piece.token, Token.written, inQuotes_append, tokensFrom, begins]
      exact tokensFrom_quoted (dropSigns false content) ends ['"']
  | braced isPadded first others =>
      have begins : Partial.begin '\x7b' = ([], .braced ['\x7b']) := rfl
      have front : '\x7b' :: namesText isPadded first others ++ ['\x7d'] ++ rest =
          '\x7b' :: (namesText isPadded first others ++ '\x7d' :: rest) := by simp
      rw [Piece.token, Token.written, front, tokensFrom, begins]
      exact tokensFrom_braced (fun c member => (of_mem_namesText member).1) rest
        ['\x7b']

theorem tokensFrom_spaced {pieces : List Piece}
    (sound : ∀ piece ∈ pieces, piece.IsSound) :
    tokensFrom .nothing (spaced (pieces.map fun piece => piece.token.written)) =
      pieces.map (·.token) := by
  induction pieces with
  | nil => rfl
  | cons piece pieces ih =>
      have others : ∀ other ∈ pieces, other.IsSound :=
        fun other member => sound other (by simp [member])
      have front :
          spaced ((piece :: pieces).map fun piece => piece.token.written) =
            ' ' :: (piece.token.written ++
              spaced (pieces.map fun piece => piece.token.written)) := rfl
      rw [front, tokensFrom_blank,
        tokensFrom_piece (sound piece (by simp)) (isEnd_spaced _), ih others]
      rfl

/-- Pieces with single blanks between them are cut into their tokens. -/
theorem tokens_pieces {pieces : List Piece}
    (sound : ∀ piece ∈ pieces, piece.IsSound) :
    tokens ([' '].intercalate (pieces.map (·.written))) =
      pieces.map (·.token) := by
  cases pieces with
  | nil => rfl
  | cons piece pieces =>
      have others : ∀ other ∈ pieces, other.IsSound :=
        fun other member => sound other (by simp [member])
      rw [List.map_cons, intercalate_cons, tokens,
        dropRequiredSigns_piece (sound piece (by simp)) (isEnd_spaced _),
        dropRequiredSigns_spaced others,
        tokensFrom_piece (sound piece (by simp)) (isEnd_spaced _),
        tokensFrom_spaced others]
      rfl

/-! ## The pieces of queries -/

theorem WrittenText.piece_isSound (text : WrittenText) (isRequired : Bool) :
    (text.piece isRequired).IsSound := by
  cases text with
  | word chosen =>
      exact ⟨chosen.nonempty, fun c member =>
        ⟨chosen.wordChars c member, chosen.noNull c member⟩⟩
  | quoted content noNull => exact noNull

theorem WrittenTerm.isSound_of_mem {term : WrittenTerm} {isRequired : Bool}
    {piece : Piece} (member : piece ∈ term.pieces isRequired) :
    piece.IsSound := by
  rcases term with ⟨text, hasStar⟩
  rcases List.mem_cons.mp member with rfl | star
  · exact text.piece_isSound isRequired
  · cases hasStar with
    | false => cases star
    | true =>
        rcases List.mem_singleton.mp star with rfl
        exact (by decide : '*' ∈ markChars)

theorem WrittenPhrase.isSound_of_mem {phrase : WrittenPhrase} {piece : Piece}
    (member : piece ∈ phrase.pieces) :
    piece.IsSound := by
  rcases List.mem_append.mp member with first | joins
  · exact WrittenTerm.isSound_of_mem first
  · rcases List.mem_flatMap.mp joins with ⟨term, -, inside⟩
    rcases List.mem_cons.mp inside with rfl | other
    · exact (by decide : '+' ∈ markChars)
    · exact WrittenTerm.isSound_of_mem other

theorem isWordChar_of_asciiDigit {c : Char} (digit : isAsciiDigit c = true) :
    isWordChar c = true ∧ c.toNat ≠ 0 := by
  rcases toNat_of_asciiDigit digit with ⟨lower, upper⟩
  have marks : ∀ mark ∈ '"' :: '\x7b' :: markChars,
      mark.toNat < 48 ∨ 57 < mark.toNat := by decide
  have noMark : c ∉ '"' :: '\x7b' :: markChars := by
    intro member
    have outside := marks c member
    omega
  simp only [List.mem_cons, not_or] at noMark
  exact ⟨isWordChar_iff.mpr ⟨isBlank_of_asciiDigit digit, noMark.2.2, noMark.1,
    noMark.2.1⟩, by omega⟩

theorem WrittenGroup.isSound_of_mem {group : WrittenGroup} {piece : Piece}
    (member : piece ∈ group.pieces) :
    piece.IsSound := by
  cases group with
  | phrase isFirst only =>
      rcases List.mem_append.mp member with initial | inside
      · cases isFirst with
        | false => cases initial
        | true =>
            rcases List.mem_singleton.mp initial with rfl
            exact (by decide : '^' ∈ markChars)
      · exact WrittenPhrase.isSound_of_mem inside
  | near first others distance =>
      simp only [pieces, List.mem_cons, List.mem_append, List.not_mem_nil,
        or_false] at member
      rcases member with rfl | rfl | ((here | there) | digits) | rfl
      · exact ⟨by decide, by decide⟩
      · exact (by decide : '(' ∈ markChars)
      · exact WrittenPhrase.isSound_of_mem here
      · rcases List.mem_flatMap.mp there with ⟨phrase, -, inside⟩
        exact WrittenPhrase.isSound_of_mem inside
      · cases distance with
        | none => cases digits
        | some distance =>
            simp only [distancePieces, List.mem_cons, List.not_mem_nil,
              or_false] at digits
            rcases digits with rfl | rfl
            · exact (by decide : ',' ∈ markChars)
            · exact ⟨distance.nonempty, fun c member =>
                isWordChar_of_asciiDigit (distance.areDigits c member)⟩
      · exact (by decide : ')' ∈ markChars)

theorem WrittenFilter.isSound_of_mem {filter : Option WrittenFilter}
    {piece : Piece} (member : piece ∈ optionalPieces filter) :
    piece.IsSound := by
  cases filter with
  | none => cases member
  | some filter =>
      cases filter with
      | one column =>
          simp only [optionalPieces, pieces, List.mem_cons, List.not_mem_nil,
            or_false] at member
          rcases member with rfl | rfl
          · exact ⟨by cases column <;> decide, fun c member =>
              of_mem_name member⟩
          · exact (by decide : ':' ∈ markChars)
      | several isPadded first others =>
          simp only [optionalPieces, pieces, List.mem_cons, List.not_mem_nil,
            or_false] at member
          rcases member with rfl | rfl
          · trivial
          · exact (by decide : ':' ∈ markChars)

theorem WrittenItem.isSound_of_mem {item : WrittenItem} {piece : Piece}
    (member : piece ∈ item.pieces) :
    piece.IsSound := by
  rcases List.mem_append.mp member with filter | group
  · exact WrittenFilter.isSound_of_mem filter
  · exact WrittenGroup.isSound_of_mem group

/-- A written query consists of pieces that are cut out as they are. -/
theorem WrittenQuery.isSound_of_mem {strength : Nat}
    {query : WrittenQuery strength} {piece : Piece}
    (member : piece ∈ query.pieces) :
    piece.IsSound := by
  induction query with
  | items first others =>
      rcases List.mem_append.mp member with here | there
      · exact WrittenItem.isSound_of_mem here
      · rcases List.mem_flatMap.mp there with ⟨item, -, inside⟩
        exact WrittenItem.isSound_of_mem inside
  | parenthesised filter body ih =>
      simp only [pieces, List.mem_append, List.mem_cons, List.not_mem_nil,
        or_false] at member
      rcases member with front | rfl | inside | rfl
      · exact WrittenFilter.isSound_of_mem front
      · exact (by decide : '(' ∈ markChars)
      · exact ih inside
      · exact (by decide : ')' ∈ markChars)
  | combined operator strong left right ihLeft ihRight =>
      simp only [pieces, List.mem_append, List.mem_cons] at member
      rcases member with inside | rfl | inside
      · exact ihLeft inside
      · exact ⟨by cases operator <;> decide, by cases operator <;> decide⟩
      · exact ihRight inside

/-- The tokens of a written query. -/
theorem tokens_text {strength : Nat} (query : WrittenQuery strength) :
    tokens query.text = query.pieces.map (·.token) :=
  tokens_pieces fun _ => WrittenQuery.isSound_of_mem

end ClusterLog.Query
