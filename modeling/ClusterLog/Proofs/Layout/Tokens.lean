import ClusterLog.Layout.Token
import ClusterLog.Proofs.Text.Find
import Mathlib.Data.List.TakeDrop
import Mathlib.Data.List.TakeWhile

/-!
# Laws of layout tokens

A layout description is read to its end, one token after the other: each token
leaves a shorter text behind, so the limit that the reader starts with is never
reached.  The placeholders that are known as a whole are read as their tokens,
whatever follows them.
-/

namespace ClusterLog.Layout

open Text

/-! ## What a token is written as -/

/-- A percent sign, possibly a minus, a width and a precision, a word of ASCII
letters and possibly an option in braces. -/
inductive IsConversion : List Char → Prop
  | of {sign width precision word option : List Char}
      (signed : sign = [] ∨ sign = ['-'])
      (wide : ∀ c ∈ width, isDigit c = true)
      (precise : precision = [] ∨ ∃ digits, precision = '.' :: digits ∧
        digits ≠ [] ∧ ∀ c ∈ digits, isDigit c = true)
      (nonempty : word ≠ []) (letters : ∀ c ∈ word, isAsciiLetter c = true)
      (optional : option = [] ∨
        ∃ inner, option = '{' :: (inner ++ ['}']) ∧ '}' ∉ inner) :
      IsConversion ('%' :: (sign ++ (width ++ (precision ++ (word ++ option)))))

/-- A text that a token stands for: a placeholder that is known as a whole, any
other conversion, or one character. -/
inductive Token.IsWritten : Token → List Char → Prop
  | placeholder {written : String} {token : Token}
      (known : (written, token) ∈ placeholders) : token.IsWritten written.toList
  | lineEnd : Token.nothing.IsWritten ['%', 'n']
  | conversion {written : List Char} (conversion : IsConversion written)
      (other : written ≠ ['%', 'n']) : Token.other.IsWritten written
  | space : Token.space.IsWritten [' ']
  | literal {c : Char} (nonspace : c ≠ ' ') : (Token.literal c).IsWritten [c]

theorem Token.IsWritten.ne_nil {token : Token} {written : List Char}
    (writes : token.IsWritten written) : written ≠ [] := by
  cases writes with
  | placeholder known =>
      have nonempty : ∀ entry ∈ placeholders, entry.1.toList ≠ [] := by decide
      exact nonempty _ known
  | conversion conversion => cases conversion; exact List.cons_ne_nil _ _
  | lineEnd | space | literal => exact List.cons_ne_nil _ _

theorem exists_precision (text : List Char) :
    ∃ precision, text = precision ++ dropPrecision text ∧
      (precision = [] ∨ ∃ digits, precision = '.' :: digits ∧
        digits ≠ [] ∧ ∀ c ∈ digits, isDigit c = true) := by
  unfold dropPrecision
  split
  · split
    · rename_i rest digits after found
      rcases readRun?_eq_some found with ⟨rfl, nonempty, all⟩
      exact ⟨'.' :: digits, rfl, Or.inr ⟨digits, rfl, nonempty, all⟩⟩
    · exact ⟨[], rfl, Or.inl rfl⟩
  · exact ⟨[], rfl, Or.inl rfl⟩

theorem exists_option (text : List Char) :
    ∃ option, text = option ++ dropOption text ∧
      (option = [] ∨
        ∃ inner, option = '{' :: (inner ++ ['}']) ∧ '}' ∉ inner) := by
  unfold dropOption
  split
  · rename_i rest
    split
    · rename_i c after found
      have parts := List.takeWhile_append_dropWhile (p := (· != '}')) (l := rest)
      have closing : c = '}' := by
        simpa using head_dropWhile (· != '}') rest c (by rw [found]; rfl)
      have unclosed : '}' ∉ rest.takeWhile (· != '}') := fun inside => by
        simpa using List.mem_takeWhile_imp inside
      rw [found, closing] at parts
      refine ⟨'{' :: (rest.takeWhile (· != '}') ++ ['}']), ?_,
        Or.inr ⟨_, rfl, unclosed⟩⟩
      rw [List.cons_append, List.append_assoc]
      exact congrArg _ parts.symm
    · exact ⟨[], rfl, Or.inl rfl⟩
  · exact ⟨[], rfl, Or.inl rfl⟩

theorem conversionAt?_eq_some {text rest : List Char} {token : Token}
    (found : conversionAt? text = some (token, rest)) :
    ∃ written, text = written ++ rest ∧ token.IsWritten written := by
  unfold conversionAt? at found
  split at found
  · rename_i behind
    simp only [Option.bind_eq_bind, Option.bind_eq_some_iff] at found
    rcases found with ⟨⟨word, afterWord⟩, run, ends⟩
    obtain ⟨sign, numbers, afterSign, signed, run⟩ :
        ∃ sign numbers, behind = sign ++ numbers ∧
          (sign = [] ∨ sign = ['-']) ∧
          readRun? isAsciiLetter (dropPrecision (numbers.dropWhile isDigit)) =
            some (word, afterWord) := by
      split at run
      · exact ⟨['-'], _, rfl, Or.inr rfl, run⟩
      · exact ⟨[], _, rfl, Or.inl rfl, run⟩
    rcases exists_precision (numbers.dropWhile isDigit) with
      ⟨precision, afterWidth, precise⟩
    rcases readRun?_eq_some run with ⟨afterPrecision, nonempty, letters⟩
    rcases exists_option afterWord with ⟨option, afterOption, optional⟩
    have parts : behind = (sign ++ (numbers.takeWhile isDigit ++
        (precision ++ (word ++ option)))) ++ dropOption afterWord := by
      simp only [List.append_assoc]
      rw [← afterOption, ← afterPrecision, ← afterWidth,
        List.takeWhile_append_dropWhile, ← afterSign]
    have written : IsConversion ('%' :: (sign ++ (numbers.takeWhile isDigit ++
        (precision ++ (word ++ option))))) :=
      .of signed (fun c inside => List.mem_takeWhile_imp inside) precise nonempty
        letters optional
    revert written
    generalize sign ++ (numbers.takeWhile isDigit ++
      (precision ++ (word ++ option))) = body at parts
    intro written
    have taken : behind.take (behind.length - (dropOption afterWord).length) =
        body := by
      rw [parts, List.length_append, Nat.add_sub_cancel, List.take_left]
    split at ends
    · cases ends
    · cases ends
      refine ⟨'%' :: body, congrArg _ parts, ?_⟩
      dsimp only
      rw [taken]
      split
      · rename_i bare
        rw [beq_iff_eq.mp bare]
        exact .lineEnd
      · rename_i other
        refine .conversion written fun same => other ?_
        rw [beq_iff_eq, (List.cons.inj same).2]
  · cases found

/-- A token is written in front of what it leaves. -/
theorem exists_written_of_tokenAt (c : Char) (text : List Char) :
    ∃ written, c :: text = written ++ (tokenAt c text).2 ∧
      (tokenAt c text).1.IsWritten written := by
  rw [tokenAt]
  cases placeholder : placeholderAt? (c :: text) with
  | some found =>
      rcases List.exists_of_findSome?_eq_some placeholder with
        ⟨⟨written, token⟩, known, here⟩
      rcases Option.map_eq_some_iff.mp here with ⟨rest, dropped, rfl⟩
      exact ⟨written.toList, dropLiteral?_eq_some_iff.mp dropped,
        .placeholder known⟩
  | none =>
      cases conversion : conversionAt? (c :: text) with
      | some found => exact conversionAt?_eq_some conversion
      | none =>
          refine ⟨[c], rfl, ?_⟩
          rw [Option.none_or, Option.getD_none, Token.ofChar]
          split
          · rename_i blank
            rw [beq_iff_eq.mp blank]
            exact .space
          · rename_i other
            exact .literal fun same => other (beq_iff_eq.mpr same)

theorem tokenAt_length_le (c : Char) (text : List Char) :
    (tokenAt c text).2.length ≤ text.length := by
  rcases exists_written_of_tokenAt c text with ⟨written, split, writes⟩
  have lengths := congrArg List.length split
  have positive := List.length_pos_iff.mpr writes.ne_nil
  rw [List.length_cons, List.length_append] at lengths
  omega

/-! ## Reading to the end -/

/-- The limit does not matter as long as it is not below the length. -/
theorem tokensWithin_eq {fuel more : Nat} {text : List Char}
    (enough : text.length ≤ fuel) (least : fuel ≤ more) :
    tokensWithin more text = tokensWithin fuel text := by
  induction fuel generalizing more text with
  | zero =>
      obtain rfl : text = [] := List.length_eq_zero_iff.mp (by omega)
      cases more <;> rfl
  | succ fuel ih =>
      cases text with
      | nil => cases more <;> rfl
      | cons c text =>
          obtain ⟨more, rfl⟩ : ∃ others, more = others + 1 :=
            ⟨more - 1, by omega⟩
          have shorter := tokenAt_length_le c text
          rw [List.length_cons] at enough
          simp only [tokensWithin]
          rw [ih (by omega) (by omega)]

/-- The tokens of a description are its first one and those of the rest. -/
theorem tokens_cons (c : Char) (text : List Char) :
    tokens (c :: text) = (tokenAt c text).1 :: tokens (tokenAt c text).2 := by
  have rest : tokensWithin text.length (tokenAt c text).2 =
      tokens (tokenAt c text).2 :=
    tokensWithin_eq (Nat.le_refl _) (tokenAt_length_le c text)
  rw [← rest]
  rfl

/-- A description is read to its end: its tokens are written one after the
other. -/
theorem exists_written_of_tokens (layout : List Char) :
    ∃ places : List (List Char × Token),
      places.flatMap Prod.fst = layout ∧
      places.map Prod.snd = tokens layout ∧
      ∀ place ∈ places, place.2.IsWritten place.1 := by
  induction size : layout.length using Nat.strongRecOn generalizing layout with
  | ind length ih =>
      cases layout with
      | nil => exact ⟨[], rfl, rfl, nofun⟩
      | cons c text =>
          have shorter := tokenAt_length_le c text
          rw [List.length_cons] at size
          rcases exists_written_of_tokenAt c text with ⟨written, parts, writes⟩
          rcases ih _ (by omega) (tokenAt c text).2 rfl with
            ⟨places, whole, read, all⟩
          refine ⟨(written, (tokenAt c text).1) :: places, ?_, ?_,
            List.forall_mem_cons.mpr ⟨writes, all⟩⟩
          · rw [List.flatMap_cons, whole, parts]
          · rw [List.map_cons, read, tokens_cons]

/-- Without a percent sign each character is a token of its own. -/
theorem tokens_of_noPercent {layout : List Char} (plain : '%' ∉ layout) :
    tokens layout = layout.map Token.ofChar := by
  induction layout with
  | nil => rfl
  | cons c layout ih =>
      have one : tokenAt c layout = (Token.ofChar c, layout) := by
        rcases exists_written_of_tokenAt c layout with ⟨written, parts, writes⟩
        generalize tokenAt c layout = found at parts writes ⊢
        rcases found with ⟨token, rest⟩
        have absent : '%' ∉ written := fun inside =>
          plain (parts ▸ List.mem_append_left _ inside)
        cases writes with
        | placeholder known =>
            have marked : ∀ entry ∈ placeholders, '%' ∈ entry.1.toList := by
              decide
            exact absurd (marked _ known) absent
        | lineEnd => exact absurd List.mem_cons_self absent
        | conversion conversion =>
            cases conversion
            exact absurd List.mem_cons_self absent
        | space =>
            cases parts
            rfl
        | literal nonspace =>
            cases parts
            rw [Token.ofChar, if_neg (by simpa using nonspace)]
            rfl
      rw [tokens_cons, one, List.map_cons,
        ih fun inside => plain (List.mem_cons_of_mem _ inside)]

/-! ## Known placeholders -/

/-- A placeholder that is known as a whole is read as its token, whatever
follows. -/
theorem placeholderAt?_append {written : String} {token : Token}
    (known : (written, token) ∈ placeholders) (rest : List Char) :
    placeholderAt? (written.toList ++ rest) = some (token, rest) := by
  simp only [placeholders, List.mem_cons, Prod.mk.injEq, List.not_mem_nil,
    or_false] at known
  rcases known with ⟨rfl, rfl⟩ | ⟨rfl, rfl⟩ | ⟨rfl, rfl⟩ | ⟨rfl, rfl⟩ |
    ⟨rfl, rfl⟩ | ⟨rfl, rfl⟩ | ⟨rfl, rfl⟩ | ⟨rfl, rfl⟩ | ⟨rfl, rfl⟩ |
    ⟨rfl, rfl⟩
  all_goals rfl

theorem tokens_placeholder {written : String} {token : Token}
    (known : (written, token) ∈ placeholders) (rest : List Char) :
    tokens (written.toList ++ rest) = token :: tokens rest := by
  have found := placeholderAt?_append known rest
  cases split : written.toList ++ rest with
  | nil =>
      rw [split] at found
      cases found
  | cons c text =>
      rw [split] at found
      rw [tokens_cons, tokenAt, found]
      rfl

theorem tokens_space (rest : List Char) :
    tokens (' ' :: rest) = .space :: tokens rest := by
  rw [tokens_cons]
  rfl

end ClusterLog.Layout
