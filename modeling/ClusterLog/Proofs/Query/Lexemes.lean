import ClusterLog.Proofs.Query.Tokens
import ClusterLog.Proofs.Term.Separators
import Mathlib.Data.List.TakeWhile

/-!
# The lexemes of scoped queries

The parts of a scoped query with single blanks between them are cut into the
lexemes of its pieces.  A word with punctuation is a quoted text there.
-/

namespace ClusterLog.Query

open Text

/-- The lexeme of a text that is searched for. -/
def textLexeme (characters : List Char) : Lexeme :=
  if characters.all isWord then wordLexeme characters
  else .text ('"' :: characters ++ ['"'])

/-- The lexeme of a column name. -/
def nameLexeme (column : Column) : Lexeme :=
  .text column.name.toList

/-- The lexemes of a piece. -/
def Piece.lexemes : Piece → List Lexeme
  | mark c => [.mark c]
  | word _ characters => [textLexeme characters]
  | quoted _ content => [.text (inQuotes (dropSigns false content))]
  | braced _ first others =>
    .mark '\x7b' :: nameLexeme first ::
      (others.map nameLexeme ++ [.mark '\x7d'])

/-! ## Characters -/

theorem isPlainChar_of_isWord {c : Char} (inWord : isWord c = true) :
    isPlainChar c = true := by
  by_cases ascii : c.toNat < 128
  · simp only [isWord, ascii, if_true, Bool.or_eq_true] at inWord
    rcases inWord with (letter | digit) | underscore
    · simp [isPlainChar, letter]
    · simp [isPlainChar, digit]
    · simp [isPlainChar, underscore]
  · have beyond : 128 ≤ c.toNat := by omega
    simp [isPlainChar, beyond]

theorem begin_of_isPlainChar {c : Char} (plain : isPlainChar c = true) :
    PartialLexeme.begin c = .ok ([], .word [c]) := by
  have others : ∀ mark ∈ ['"', ' ', '\t', '\n', '\r'] ++ expressionMarks,
      isPlainChar mark = false := by decide
  have noMark : c ∉ ['"', ' ', '\t', '\n', '\r'] ++ expressionMarks := by
    intro member
    simp [others c member] at plain
  simp only [List.cons_append, List.nil_append, List.mem_cons, not_or]
    at noMark
  rcases noMark with ⟨noQuote, noSpace, noTab, noLine, noReturn, noMark⟩
  simp [PartialLexeme.begin, isExpressionBlank, noQuote, noSpace, noTab,
    noLine, noReturn, noMark, plain]

theorem begin_of_mem_marks {c : Char} (isMark : c ∈ '\x7b' :: markChars) :
    PartialLexeme.begin c = .ok ([.mark c], .nothing) := by
  have all : ∀ mark ∈ '\x7b' :: markChars,
      isExpressionBlank mark = false ∧ mark ≠ '"' ∧
        mark ∈ expressionMarks := by
    decide
  rcases all c isMark with ⟨noBlank, noQuote, known⟩
  simp [PartialLexeme.begin, noBlank, noQuote, known]

/-! ## Cutting -/

/-- Lexemes in front of what cutting goes on with. -/
def withFront (front : List Lexeme) (cut : List Lexeme × Option Fault) :
    List Lexeme × Option Fault :=
  (front ++ cut.1, cut.2)

theorem lexemesFrom_mark {c : Char} (isMark : c ∈ '\x7b' :: markChars)
    (rest : List Char) :
    lexemesFrom .nothing (c :: rest) =
      withFront [.mark c] (lexemesFrom .nothing rest) := by
  rw [lexemesFrom, begin_of_mem_marks isMark]
  rfl

/-- A begun word ends where no plain character follows. -/
theorem lexemesFrom_wordEnd {rest : List Char}
    (ends : ∀ c ∈ rest.head?, isPlainChar c = false) (begun : List Char) :
    lexemesFrom (.word begun) rest =
      withFront [wordLexeme begun.reverse] (lexemesFrom .nothing rest) := by
  cases rest with
  | nil => rfl
  | cons c rest =>
      have noPlain : isPlainChar c = false := ends c rfl
      cases begins : PartialLexeme.begin c with
      | error fault => simp [lexemesFrom, noPlain, begins, withFront]
      | ok begun => simp [lexemesFrom, noPlain, begins, withFront]

theorem lexemesFrom_wordRun {characters rest : List Char}
    (plain : ∀ c ∈ characters, isPlainChar c = true)
    (ends : ∀ c ∈ rest.head?, isPlainChar c = false) (begun : List Char) :
    lexemesFrom (.word begun) (characters ++ rest) =
      withFront [wordLexeme (begun.reverse ++ characters)]
        (lexemesFrom .nothing rest) := by
  induction characters generalizing begun with
  | nil => simpa using lexemesFrom_wordEnd ends begun
  | cons c characters ih =>
      have others : ∀ other ∈ characters, isPlainChar other = true :=
        fun other member => plain other (by simp [member])
      rw [List.cons_append, lexemesFrom, if_pos (plain c (by simp)), ih others]
      simp

theorem lexemesFrom_word {characters rest : List Char}
    (nonempty : characters ≠ [])
    (plain : ∀ c ∈ characters, isPlainChar c = true)
    (ends : ∀ c ∈ rest.head?, isPlainChar c = false) :
    lexemesFrom .nothing (characters ++ rest) =
      withFront [wordLexeme characters] (lexemesFrom .nothing rest) := by
  rcases List.exists_cons_of_ne_nil nonempty with ⟨first, others, rfl⟩
  have plainOthers : ∀ c ∈ others, isPlainChar c = true :=
    fun c member => plain c (by simp [member])
  rw [List.cons_append, lexemesFrom, begin_of_isPlainChar (plain first (by simp))]
  exact lexemesFrom_wordRun plainOthers ends [first]

theorem lexemesFrom_doubled (content : List Char) {rest : List Char}
    (ends : IsEnd rest) (begun : List Char) :
    lexemesFrom (.quoted begun) (doubled content ++ '"' :: rest) =
      withFront [.text (begun.reverse ++ doubled content ++ ['"'])]
        (lexemesFrom .nothing rest) := by
  induction content generalizing begun with
  | nil =>
      rcases ends with rfl | ⟨others, rfl⟩ <;>
        simp [doubled, lexemesFrom, withFront]
  | cons c content ih =>
      by_cases quote : c = '"'
      · subst quote
        rw [doubled_quote, List.cons_append, List.cons_append, lexemesFrom, ih]
        simp
      · rw [doubled_cons_of_ne quote, List.cons_append, lexemesFrom, ih]
        · simp
        · exact fun _ same => absurd same quote
        · exact quote

theorem lexemesFrom_inQuotes (content : List Char) {rest : List Char}
    (ends : IsEnd rest) :
    lexemesFrom .nothing (inQuotes content ++ rest) =
      withFront [.text (inQuotes content)] (lexemesFrom .nothing rest) := by
  have begins : PartialLexeme.begin '"' = .ok ([], .quoted ['"']) := rfl
  rw [inQuotes_append, lexemesFrom, begins]
  exact lexemesFrom_doubled content ends ['"']

/-! ## Names between braces -/

theorem isPlainChar_of_mem_name {column : Column} {c : Char}
    (member : c ∈ column.name.toList) :
    isPlainChar c = true := by
  have all : ∀ column : Column, ∀ c ∈ column.name.toList,
      isPlainChar c = true := by
    intro column
    cases column <;> decide
  exact all column c member

theorem lexemesFrom_name (column : Column) {rest : List Char}
    (ends : ∀ c ∈ rest.head?, isPlainChar c = false) :
    lexemesFrom .nothing (column.name.toList ++ rest) =
      withFront [nameLexeme column] (lexemesFrom .nothing rest) := by
  have nonempty : column.name.toList ≠ [] := by cases column <;> decide
  have plain : wordLexeme column.name.toList = nameLexeme column := by
    cases column <;> decide
  rw [lexemesFrom_word nonempty (fun c => isPlainChar_of_mem_name) ends, plain]

theorem lexemesFrom_names (others : List Column) {rest : List Char}
    (ends : ∀ c ∈ rest.head?, isPlainChar c = false) :
    lexemesFrom .nothing
        ((others.flatMap fun column => ' ' :: column.name.toList) ++ rest) =
      withFront (others.map nameLexeme) (lexemesFrom .nothing rest) := by
  induction others with
  | nil => rfl
  | cons column others ih =>
      have next : ∀ c ∈
          ((others.flatMap fun column => ' ' :: column.name.toList) ++
            rest).head?, isPlainChar c = false := by
        cases others with
        | nil => exact ends
        | cons second others =>
            intro c first
            obtain rfl : ' ' = c := by simpa using first
            decide
      rw [List.flatMap_cons, List.cons_append, List.cons_append,
        lexemesFrom_blank, List.append_assoc, lexemesFrom_name column next, ih]
      rfl

theorem lexemesFrom_namesText (isPadded : Bool) (first : Column)
    (others : List Column) (rest : List Char) :
    lexemesFrom .nothing
        (namesText isPadded first others ++ '\x7d' :: rest) =
      withFront (nameLexeme first :: (others.map nameLexeme ++ [.mark '\x7d']))
        (lexemesFrom .nothing rest) := by
  let padding : List Char := if isPadded then [' '] else []
  have closing :
      lexemesFrom .nothing (padding ++ '\x7d' :: rest) =
        withFront [.mark '\x7d'] (lexemesFrom .nothing rest) := by
    have mark := lexemesFrom_mark (by decide : '\x7d' ∈ '\x7b' :: markChars) rest
    cases isPadded with
    | false => exact mark
    | true => exact (lexemesFrom_blank _).trans mark
  have ends : ∀ c ∈ (padding ++ '\x7d' :: rest).head?,
      isPlainChar c = false := by
    cases isPadded <;> simp [padding] <;> decide
  have nextEnds : ∀ c ∈
      ((others.flatMap fun column => ' ' :: column.name.toList) ++
        (padding ++ '\x7d' :: rest)).head?, isPlainChar c = false := by
    cases others with
    | nil => exact ends
    | cons second others =>
        intro c here
        obtain rfl : ' ' = c := by simpa using here
        decide
  have names :
      lexemesFrom .nothing (first.name.toList ++
          ((others.flatMap fun column => ' ' :: column.name.toList) ++
            (padding ++ '\x7d' :: rest))) =
        withFront (nameLexeme first :: (others.map nameLexeme ++ [.mark '\x7d']))
          (lexemesFrom .nothing rest) := by
    rw [lexemesFrom_name first nextEnds, lexemesFrom_names others ends, closing]
    simp [withFront]
  have split :
      namesText isPadded first others ++ '\x7d' :: rest =
        padding ++ (first.name.toList ++
          ((others.flatMap fun column => ' ' :: column.name.toList) ++
            (padding ++ '\x7d' :: rest))) := by
    simp [namesText, padding]
  rw [split]
  cases isPadded with
  | false => exact names
  | true => exact (lexemesFrom_blank _).trans names

/-! ## Parts -/

theorem head?_of_isEnd {rest : List Char} (ends : IsEnd rest) :
    ∀ c ∈ rest.head?, isPlainChar c = false := by
  rcases ends with rfl | ⟨others, rfl⟩
  · simp
  · intro c first
    obtain rfl : ' ' = c := by simpa using first
    decide

/-- The part of a piece is cut into the lexemes of the piece. -/
theorem lexemesFrom_part {piece : Piece} (sound : piece.IsSound)
    {rest : List Char} (ends : IsEnd rest) :
    lexemesFrom .nothing (piece.part ++ rest) =
      withFront piece.lexemes (lexemesFrom .nothing rest) := by
  cases piece with
  | mark c => exact lexemesFrom_mark (List.mem_cons_of_mem _ sound) rest
  | word isRequired characters =>
      rcases sound with ⟨nonempty, inWord⟩
      cases plain : characters.all isWord with
      | true =>
          have all : ∀ c ∈ characters, isPlainChar c = true :=
            fun c member =>
              isPlainChar_of_isWord (List.all_eq_true.mp plain c member)
          have lexeme : textLexeme characters = wordLexeme characters := by
            simp [textLexeme, plain]
          rw [Piece.part_word isRequired plain, Piece.lexemes, lexeme]
          exact lexemesFrom_word nonempty all (head?_of_isEnd ends)
      | false =>
          have noQuote : ∀ c ∈ characters, c ≠ '"' :=
            fun c member => (isWordChar_iff.mp (inWord c member).1).2.2.1
          have quotes : '"' :: characters ++ ['"'] = inQuotes characters := by
            rw [inQuotes, doubled_of_noQuote noQuote]
          have part :
              (Piece.word isRequired characters).part = inQuotes characters := by
            rw [← quotes]
            simp [Piece.part, groupText, Token.isMark, phraseText, plain]
          have lexeme : textLexeme characters = .text (inQuotes characters) := by
            rw [← quotes]
            simp [textLexeme, plain]
          rw [part, Piece.lexemes, lexeme]
          exact lexemesFrom_inQuotes characters ends
  | quoted isRequired content =>
      exact lexemesFrom_inQuotes (dropSigns false content) ends
  | braced isPadded first others =>
      have mark := lexemesFrom_mark (by decide : '\x7b' ∈ '\x7b' :: markChars)
        (namesText isPadded first others ++ '\x7d' :: rest)
      rw [lexemesFrom_namesText] at mark
      have front :
          (Piece.braced isPadded first others).part ++ rest =
            '\x7b' :: (namesText isPadded first others ++ '\x7d' :: rest) := by
        simp [Piece.part, Piece.written]
      rw [front, mark]
      rfl

theorem lexemesFrom_spaced {pieces : List Piece}
    (sound : ∀ piece ∈ pieces, piece.IsSound) :
    lexemesFrom .nothing (spaced (pieces.map (·.part))) =
      (pieces.flatMap (·.lexemes), none) := by
  induction pieces with
  | nil => rfl
  | cons piece pieces ih =>
      have others : ∀ other ∈ pieces, other.IsSound :=
        fun other member => sound other (by simp [member])
      have front :
          spaced ((piece :: pieces).map (·.part)) =
            ' ' :: (piece.part ++ spaced (pieces.map (·.part))) := rfl
      rw [front, lexemesFrom_blank,
        lexemesFrom_part (sound piece (by simp)) (isEnd_spaced _), ih others]
      rfl

/-! ## Terms -/

/-- The plus signs that are dropped from a quoted text are no parts of its
terms. -/
theorem termsFrom_dropSigns {content : List Char} :
    ∀ {begins : Bool} {begun : Option (List Char)},
      (begins = true → begun = none) →
      Term.termsFrom begun (dropSigns begins content) =
        Term.termsFrom begun content := by
  induction content with
  | nil => intros; rfl
  | cons c content ih =>
      intro begins begun atStart
      rw [dropSigns.eq_def]
      split
      · rename_i none
        cases none
      · rename_i rest split'
        rcases List.cons.inj split' with ⟨rfl, rfl⟩
        split
        · rename_i dropped
          have first : begins = true := by
            simp only [Bool.and_eq_true] at dropped
            exact dropped.1
          rw [atStart first, ih (fun none => by cases none)]
          rfl
        · exact Term.termsFrom_cons_congr
            (fun _ _ => ih fun none => by cases none) begun
      · rename_i other rest _ split'
        rcases List.cons.inj split' with ⟨rfl, rfl⟩
        refine Term.termsFrom_cons_congr (fun next separated => ih ?_) begun
        intro separator
        simp only [Bool.or_eq_true, beq_iff_eq] at separator
        rcases separator with blank | rfl
        · rcases Term.isTermChar_of_isBlank blank with ⟨noTerm, noMark⟩
          exact separated noTerm noMark
        · exact separated (by decide) (by decide)

theorem terms_dropSigns (content : List Char) :
    Term.terms (dropSigns false content) = Term.terms content :=
  termsFrom_dropSigns fun none => by cases none

/-! ## Null characters -/

theorem mem_of_mem_dropSigns {content : List Char} {c : Char} :
    ∀ {begins : Bool}, c ∈ dropSigns begins content → c ∈ content := by
  induction content with
  | nil => intro begins member; exact member
  | cons first content ih =>
      intro begins member
      rw [dropSigns.eq_def] at member
      split at member
      · cases member
      · rename_i rest same
        rcases List.cons.inj same with ⟨rfl, rfl⟩
        split at member
        · exact List.mem_cons_of_mem _ (ih member)
        · rcases List.mem_cons.mp member with rfl | inside
          · simp
          · exact List.mem_cons_of_mem _ (ih inside)
      · rename_i second rest _ same
        rcases List.cons.inj same with ⟨rfl, rfl⟩
        rcases List.mem_cons.mp member with rfl | inside
        · simp
        · exact List.mem_cons_of_mem _ (ih inside)

theorem mem_inQuotes {content : List Char} {c : Char}
    (member : c ∈ inQuotes content) :
    c = '"' ∨ c ∈ content := by
  simp only [inQuotes, doubled, List.mem_cons, List.mem_append,
    List.mem_flatMap, List.not_mem_nil, or_false] at member
  rcases member with (quote | ⟨first, inside, member⟩) | quote
  · exact Or.inl quote
  · split at member
    · simp only [List.mem_cons, List.not_mem_nil, or_false, or_self] at member
      exact Or.inl member
    · exact Or.inr (List.mem_singleton.mp member ▸ inside)
  · exact Or.inl quote

theorem noNull_part {piece : Piece} (sound : piece.IsSound) :
    ∀ c ∈ piece.part, c.toNat ≠ 0 := by
  have quote : ('"').toNat ≠ 0 := by decide
  intro c member
  cases piece with
  | mark mark =>
      rcases List.mem_singleton.mp member with rfl
      have all : ∀ mark ∈ markChars, mark.toNat ≠ 0 := by decide
      exact all c sound
  | word isRequired characters =>
      simp only [Piece.part, groupText, Piece.token_word, Token.isMark,
        Bool.false_eq_true, if_false, phraseText] at member
      split at member
      · exact (sound.2 c member).2
      · simp only [List.mem_cons, List.mem_append, List.not_mem_nil, or_false]
          at member
        rcases member with (rfl | inside) | rfl
        · exact quote
        · exact (sound.2 c inside).2
        · exact quote
  | quoted isRequired content =>
      rcases mem_inQuotes member with rfl | inside
      · exact quote
      · exact sound c (mem_of_mem_dropSigns inside)
  | braced isPadded first others =>
      simp only [Piece.part, Piece.written, List.mem_cons, List.mem_append,
        List.not_mem_nil, or_false] at member
      rcases member with (rfl | inside) | rfl
      · decide
      · exact (of_mem_namesText inside).2.2
      · decide

/-! ## Queries -/

/-- The lexemes of parts with single blanks between them. -/
theorem lexemes_parts {pieces : List Piece}
    (sound : ∀ piece ∈ pieces, piece.IsSound) :
    lexemes ([' '].intercalate (pieces.map (·.part))) =
      (pieces.flatMap (·.lexemes), none) := by
  cases pieces with
  | nil => rfl
  | cons piece pieces =>
      have others : ∀ other ∈ pieces, other.IsSound :=
        fun other member => sound other (by simp [member])
      have noNull : ∀ c ∈ piece.part ++ spaced (pieces.map (·.part)),
          (c.toNat != 0) = true := by
        intro c member
        rcases List.mem_append.mp member with here | there
        · simpa using noNull_part (sound piece (by simp)) c here
        · simp only [spaced, List.mem_flatMap, List.mem_map, List.mem_cons]
            at there
          rcases there with ⟨_, ⟨other, known, rfl⟩, rfl | inside⟩
          · decide
          · simpa using noNull_part (others other known) c inside
      rw [List.map_cons, intercalate_cons, lexemes,
        List.takeWhile_eq_self_iff.mpr noNull,
        lexemesFrom_part (sound piece (by simp)) (isEnd_spaced _),
        lexemesFrom_spaced others]
      rfl

end ClusterLog.Query
