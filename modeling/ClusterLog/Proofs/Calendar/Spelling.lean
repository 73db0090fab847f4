import ClusterLog.Proofs.Calendar.Written
import ClusterLog.Proofs.Text.Find

/-!
# Spelled dates

What a text in a date format says, apart from how it is read: its fields are
spelled one after the other, with the separators of the format between them.
Whatever is read from a text is spelled there, and where separators keep the
fields apart, a text spells one point in time at most.
-/

namespace ClusterLog.Calendar

open ClusterLog.Text

/-! ## Fields -/

/-- How many digits a field may have. -/
def Field.widths : Field → List Nat
  | .year => [4]
  | .monthName => []
  | _ => [1, 2]

/-- A text is one way to write a value of a field. -/
inductive Field.Spells : Field → List Char → Nat → Prop
  /-- Digits of any script. -/
  | digits {field : Field} {text : List Char}
      (width : text.length ∈ field.widths)
      (digits : ∀ c ∈ text, isDigit c = true) :
      Spells field text (numeral text)
  /-- A day of one digit, filled up with a space. -/
  | filled {c : Char} (digit : isDigit c = true) :
      Spells .day [' ', c] (numeral [c])
  /-- The beginning of a month's name, in any case. -/
  | name {text : List Char} {index : Nat} {name : String}
      (known : monthNames[index]? = some name)
      (same : text.map Char.toLower = name.toList) :
      Spells .monthName text (index + 1)

theorem Glyph.digits?_eq_some {glyph : Glyph} {c : Char} {digits : List Nat}
    (reads : glyph.digits? c = some digits) :
    (glyph ≠ .space ∧ ∃ digit, digitValue? c = some digit ∧ digits = [digit]) ∨
      glyph = .space ∧ c = ' ' ∧ digits = [] := by
  cases glyph with
  | between low high =>
      rcases Option.bind_eq_some_iff.mp reads with ⟨digit, value, within⟩
      split at within
      · cases within
        exact Or.inl ⟨nofun, digit, value, rfl⟩
      · cases within
  | digit =>
      rcases Option.map_eq_some_iff.mp reads with ⟨digit, value, rfl⟩
      exact Or.inl ⟨nofun, digit, value, rfl⟩
  | space =>
      simp only [digits?] at reads
      split at reads
      · rename_i same
        cases reads
        exact Or.inr ⟨rfl, beq_iff_eq.mp same, rfl⟩
      · cases reads

theorem readGlyphs_cons_eq_some {glyph : Glyph} {glyphs : List Glyph}
    {text rest : List Char} {digits : List Nat}
    (reads : readGlyphs (glyph :: glyphs) text = some (digits, rest)) :
    ∃ c behind first others,
      text = c :: behind ∧
      glyph.digits? c = some first ∧
      readGlyphs glyphs behind = some (others, rest) ∧
      digits = first ++ others := by
  cases text with
  | nil => cases reads
  | cons c behind =>
      rcases Option.bind_eq_some_iff.mp reads with ⟨first, here, goesOn⟩
      rcases Option.bind_eq_some_iff.mp goesOn with
        ⟨⟨others, left⟩, there, same⟩
      cases same
      exact ⟨c, behind, first, others, rfl, here, there, rfl⟩

/-- Glyphs without a space read one digit each. -/
theorem readGlyphs_eq_some {glyphs : List Glyph} {text rest : List Char}
    {digits : List Nat} (solid : Glyph.space ∉ glyphs)
    (reads : readGlyphs glyphs text = some (digits, rest)) :
    ∃ written,
      text = written ++ rest ∧
      written.length = glyphs.length ∧
      (∀ c ∈ written, isDigit c = true) ∧
      written.filterMap digitValue? = digits := by
  induction glyphs generalizing text digits with
  | nil =>
      cases reads
      exact ⟨[], rfl, rfl, nofun, rfl⟩
  | cons glyph glyphs ih =>
      rcases readGlyphs_cons_eq_some reads with
        ⟨c, behind, first, others, rfl, here, there, rfl⟩
      rcases ih (List.not_mem_of_not_mem_cons solid) there with
        ⟨written, rfl, length, areDigits, rfl⟩
      rcases Glyph.digits?_eq_some here with
        ⟨-, digit, value, rfl⟩ | ⟨rfl, -⟩
      · refine ⟨c :: written, rfl, by rw [List.length_cons, length]; rfl, ?_,
          by rw [List.filterMap_cons_some value]; rfl⟩
        exact List.forall_mem_cons.mpr ⟨by simp [isDigit, value], areDigits⟩
      · exact absurd List.mem_cons_self solid

/-- The shapes of a field are runs of digits of its widths, except for the day
that is filled up. -/
theorem Field.shapes_cases {field : Field} {shape : List Glyph}
    (member : shape ∈ field.shapes) :
    (Glyph.space ∉ shape ∧ shape.length ∈ field.widths) ∨
      field = .day ∧ shape = [.space, .between 1 9] := by
  cases field <;> simp only [shapes, List.mem_cons, List.not_mem_nil,
    or_false] at member
  case year => subst member; simp [widths]
  case day =>
      rcases member with rfl | rfl | rfl | rfl | rfl <;> simp [widths]
  case minute => rcases member with rfl | rfl <;> simp [widths]
  all_goals rcases member with rfl | rfl | rfl <;> simp [widths]

/-- What a field is read as is spelled in front of the rest. -/
theorem Field.spells_of_mem_readings {field : Field} {text rest : List Char}
    {value : Nat} (reads : (value, rest) ∈ field.readings text) :
    ∃ written, text = written ++ rest ∧ field.Spells written value := by
  by_cases named : field = .monthName
  · subst named
    simp only [readings] at reads
    split at reads
    · rename_i index found
      cases List.mem_singleton.mp reads
      refine ⟨text.take 3, (List.take_append_drop 3 text).symm, ?_⟩
      rcases List.findIdx?_eq_some_iff_getElem.mp found with
        ⟨inside, same, -⟩
      exact .name (List.getElem?_eq_getElem inside)
        (beq_iff_eq.mp same).symm
    · cases reads
  · have numeric : (value, rest) ∈ field.shapes.filterMap fun shape =>
        (readGlyphs shape text).map fun read =>
          (digitsValue read.1, read.2) := by
      cases field <;> first | exact reads | exact absurd rfl named
    rcases List.mem_filterMap.mp numeric with ⟨shape, member, read⟩
    rcases Option.map_eq_some_iff.mp read with ⟨⟨digits, left⟩, glyphs, same⟩
    cases same
    rcases shapes_cases member with ⟨solid, width⟩ | ⟨rfl, rfl⟩
    · rcases readGlyphs_eq_some solid glyphs with
        ⟨written, rfl, length, areDigits, rfl⟩
      exact ⟨written, rfl, .digits (length ▸ width) areDigits⟩
    · rcases readGlyphs_cons_eq_some glyphs with
        ⟨c, behind, first, others, rfl, here, there, rfl⟩
      rcases readGlyphs_eq_some (by simp) there with
        ⟨written, rfl, length, areDigits, rfl⟩
      rcases Glyph.digits?_eq_some here with ⟨other, -⟩ | ⟨-, rfl, rfl⟩
      · exact absurd rfl other
      · rcases List.length_eq_one_iff.mp length with ⟨digit, rfl⟩
        exact ⟨[' ', digit], rfl, .filled (areDigits digit (by simp))⟩

/-! ## Formats -/

/-- A text consists of the items of a format, with these values of its fields in
order. -/
inductive Format.Spells : Format → List Char → List (Field × Nat) → Prop
  | nil : Spells [] [] []
  | literal {c : Char} {items : Format} {rest : List Char}
      {values : List (Field × Nat)} (others : Spells items rest values) :
      Spells (.literal c :: items) (c :: rest) values
  | gap {items : Format} {blanks rest : List Char}
      {values : List (Field × Nat)} (nonempty : blanks ≠ [])
      (blank : ∀ c ∈ blanks, isBlank c = true)
      (others : Spells items rest values) :
      Spells (.gap :: items) (blanks ++ rest) values
  | field {field : Field} {items : Format} {text rest : List Char} {value : Nat}
      {values : List (Field × Nat)} (spells : field.Spells text value)
      (others : Spells items rest values) :
      Spells (.field field :: items) (text ++ rest) ((field, value) :: values)

theorem mem_afterBlanks {text rest : List Char}
    (member : rest ∈ afterBlanks text) :
    ∃ blanks, blanks ≠ [] ∧ (∀ c ∈ blanks, isBlank c = true) ∧
      text = blanks ++ rest := by
  induction text with
  | nil => cases member
  | cons c text ih =>
      rw [afterBlanks] at member
      split at member
      · rename_i blank
        rcases List.mem_append.mp member with further | here
        · rcases ih further with ⟨blanks, -, all, rfl⟩
          exact ⟨c :: blanks, by simp,
            List.forall_mem_cons.mpr ⟨blank, all⟩, rfl⟩
        · rw [List.mem_singleton.mp here]
          exact ⟨[c], by simp, by simpa using blank, rfl⟩
      · cases member

/-- What is read from the beginning of a text is spelled there. -/
theorem Format.spells_of_read {format : Format} {text left : List Char}
    {values : List (Field × Nat)}
    (reads : format.read text = some (values, left)) :
    ∃ written, text = written ++ left ∧ format.Spells written values := by
  induction format generalizing text values with
  | nil =>
      cases reads
      exact ⟨[], rfl, .nil⟩
  | cons item items ih =>
      cases item with
      | literal c =>
          cases text with
          | nil => cases reads
          | cons d rest =>
              simp only [read] at reads
              split at reads
              · rename_i same
                rcases ih reads with ⟨written, rfl, spells⟩
                rw [beq_iff_eq.mp same]
                exact ⟨c :: written, rfl, .literal spells⟩
              · cases reads
      | gap =>
          rcases List.exists_of_findSome?_eq_some reads with
            ⟨rest, member, goesOn⟩
          rcases mem_afterBlanks member with ⟨blanks, nonempty, blank, rfl⟩
          rcases ih goesOn with ⟨written, rfl, spells⟩
          exact ⟨blanks ++ written, (List.append_assoc _ _ _).symm,
            .gap nonempty blank spells⟩
      | field field =>
          rcases List.exists_of_findSome?_eq_some reads with
            ⟨⟨value, rest⟩, member, goesOn⟩
          rcases Option.map_eq_some_iff.mp goesOn with
            ⟨⟨others, behind⟩, further, same⟩
          cases same
          rcases Field.spells_of_mem_readings member with
            ⟨front, rfl, spellsField⟩
          rcases ih further with ⟨written, rfl, spells⟩
          exact ⟨front ++ written, (List.append_assoc _ _ _).symm,
            .field spellsField spells⟩

/-- Without the names of months, dates are written in digits, blanks and the
literal characters of the format. -/
theorem Format.Spells.of_mem {format : Format} {text : List Char}
    {values : List (Field × Nat)} (spells : format.Spells text values)
    (unnamed : .field .monthName ∉ format) :
    ∀ c ∈ text,
      isDigit c = true ∨ isBlank c = true ∨ .literal c ∈ format := by
  induction spells with
  | nil => nofun
  | literal _ ih =>
      intro c inside
      rcases List.mem_cons.mp inside with rfl | later
      · exact Or.inr (Or.inr List.mem_cons_self)
      · exact (ih (List.not_mem_of_not_mem_cons unnamed) c later).imp_right
          (Or.imp_right (List.mem_cons_of_mem _))
  | gap _ blank _ ih =>
      intro c inside
      rcases List.mem_append.mp inside with here | later
      · exact Or.inr (Or.inl (blank c here))
      · exact (ih (List.not_mem_of_not_mem_cons unnamed) c later).imp_right
          (Or.imp_right (List.mem_cons_of_mem _))
  | field spells _ ih =>
      intro c inside
      rcases List.mem_append.mp inside with here | later
      · cases spells with
        | digits _ digits => exact Or.inl (digits c here)
        | @filled d digit =>
            rcases List.mem_cons.mp here with rfl | last
            · exact Or.inr (Or.inl rfl)
            · exact Or.inl (List.mem_singleton.mp last ▸ digit)
        | name => exact absurd List.mem_cons_self unnamed
      · exact (ih (List.not_mem_of_not_mem_cons unnamed) c later).imp_right
          (Or.imp_right (List.mem_cons_of_mem _))

/-- A text with any other character is no date. -/
theorem Format.parse?_eq_none_of_mem {format : Format} {text : List Char}
    {c : Char} (unnamed : .field .monthName ∉ format) (inside : c ∈ text)
    (digit : isDigit c = false) (blank : isBlank c = false)
    (foreign : .literal c ∉ format) :
    format.parse? text = none := by
  rw [Option.eq_none_iff_forall_ne_some]
  intro time parsed
  rcases Option.bind_eq_some_iff.mp parsed with ⟨⟨values, left⟩, read, ends⟩
  rcases Format.spells_of_read read with ⟨written, rfl, spells⟩
  dsimp only at ends
  split at ends
  · rename_i nothing
    rw [List.isEmpty_iff.mp nothing, List.append_nil] at inside
    rcases spells.of_mem unnamed c inside with isDigit | isBlank | isLiteral
    · rw [digit] at isDigit
      cases isDigit
    · rw [blank] at isBlank
      cases isBlank
    · exact foreign isLiteral
  · cases ends

/-! ## Separators -/

theorem isBlank_of_digit {c : Char} (digit : isDigit c = true) :
    isBlank c = false := by
  have apart : ∀ first ∈ digitZeros, ∀ range ∈ blankRanges,
      first + 10 ≤ range.1 ∨ range.2 < first := by
    decide
  rw [isDigit, Option.isSome_iff_exists] at digit
  rcases digit with ⟨value, found⟩
  rw [digitValue?] at found
  rw [isBlank]
  split at found
  · rename_i ascii
    rw [if_pos ascii]
    split at found
    · rename_i within
      simp only [Bool.and_eq_true, decide_eq_true_eq] at within
      simp
      omega
    · cases found
  · rename_i beyond
    rw [if_neg beyond, inRanges, List.any_eq_false]
    rcases Option.map_eq_some_iff.mp found with ⟨first, finds, -⟩
    have within := List.find?_some finds
    simp only [Bool.and_eq_true, decide_eq_true_eq] at within
    intro range member
    have outside := apart first (List.mem_of_find?_eq_some finds) range member
    simp only [Bool.and_eq_true, decide_eq_true_eq]
    omega

theorem monthNames_letters :
    ∀ name ∈ monthNames, name.toList.length = 3 ∧
      ∀ c ∈ name.toList, 97 ≤ c.toNat ∧ c.toNat ≤ 122 := by
  decide

/-- A letter in small case is a letter. -/
theorem code_of_toLower {c : Char}
    (letter : 97 ≤ c.toLower.toNat ∧ c.toLower.toNat ≤ 122) :
    65 ≤ c.toNat ∧ c.toNat ≤ 122 := by
  have first : 'A'.val.toNat = 65 := rfl
  have last : 'Z'.val.toNat = 90 := rfl
  by_cases upper : c.val ≥ 'A'.val ∧ c.val ≤ 'Z'.val
  · simp only [ge_iff_le, UInt32.le_iff_toNat_le] at upper
    change 65 ≤ c.val.toNat ∧ c.val.toNat ≤ 122
    omega
  · have same : c.toLower = c := dif_neg upper
    rw [same] at letter
    omega

namespace Field.Spells

variable {field : Field} {text other rest behind : List Char}
variable {value otherValue : Nat}

theorem ne_nil (spells : field.Spells text value) : text ≠ [] := by
  rintro rfl
  cases spells with
  | digits width => cases field <;> simp [widths] at width
  | name known same =>
      have letters := monthNames_letters _ (List.mem_of_getElem? known)
      rw [← same] at letters
      cases letters.1

/-- Only a day begins with a blank. -/
theorem isBlank_head (spells : field.Spells text value) (noDay : field ≠ .day) :
    ∀ c ∈ text.head?, isBlank c = false := by
  intro c first
  have member := List.mem_of_mem_head? first
  cases spells with
  | digits width digits => exact isBlank_of_digit (digits c member)
  | filled => exact absurd rfl noDay
  | name known same =>
      have letters := monthNames_letters _ (List.mem_of_getElem? known)
      rw [← same] at letters
      have code := code_of_toLower (letters.2 _ (List.mem_map_of_mem member))
      exact isBlank_of_code (by omega) code.2

/-- In front of what is no digit, a text spells one value of a field. -/
theorem unique (spells : field.Spells text value)
    (spellsToo : field.Spells other otherValue)
    (stops : ∀ c ∈ rest.head?, isDigit c = false)
    (stopsToo : ∀ c ∈ behind.head?, isDigit c = false)
    (same : text ++ rest = other ++ behind) :
    value = otherValue ∧ rest = behind := by
  -- A text that begins with a space is no run of digits.
  have mixed : ∀ {run rest behind : List Char} {c : Char}, run ≠ [] →
      (∀ d ∈ run, isDigit d = true) → run ++ rest ≠ [' ', c] ++ behind := by
    intro run rest behind c nonempty digits same
    rcases List.exists_cons_of_ne_nil nonempty with ⟨d, others, rfl⟩
    obtain rfl : d = ' ' := (List.cons.inj same).1
    cases digits ' ' List.mem_cons_self
  cases spells with
  | digits width digits =>
      cases spellsToo with
      | digits widthToo digitsToo =>
          rcases run_unique digits digitsToo stops stopsToo same with
            ⟨rfl, rfl⟩
          exact ⟨rfl, rfl⟩
      | filled => exact absurd same (mixed (ne_nil (.digits width digits)) digits)
      | name => cases width
  | filled digit =>
      cases spellsToo with
      | digits width digits =>
          exact absurd same.symm (mixed (ne_nil (.digits width digits)) digits)
      | filled =>
          cases same
          exact ⟨rfl, rfl⟩
  | name known lower =>
      cases spellsToo with
      | digits width => cases width
      | name knownToo lowerToo =>
          have letters := monthNames_letters _ (List.mem_of_getElem? known)
          have lettersToo := monthNames_letters _ (List.mem_of_getElem? knownToo)
          rw [← lower, List.length_map] at letters
          rw [← lowerToo, List.length_map] at lettersToo
          rcases List.append_inj same (letters.1.trans lettersToo.1.symm) with
            ⟨rfl, rfl⟩
          obtain rfl := String.toList_injective (lower.symm.trans lowerToo)
          have distinct : monthNames.Nodup := by decide
          rcases List.getElem?_eq_some_iff.mp known with ⟨inside, -⟩
          rw [(List.getElem?_inj inside distinct).mp (known.trans knownToo.symm)]
          exact ⟨rfl, rfl⟩

end Field.Spells

namespace Format

/-- Each field ends where the next item begins, and each gap where the next
field begins. -/
def IsDelimited : Format → Prop
  | [] => True
  | .literal _ :: items => IsDelimited items
  | .gap :: .field field :: items =>
    field ≠ .day ∧ IsDelimited (.field field :: items)
  | .gap :: _ => False
  | .field _ :: .field _ :: _ => False
  | .field _ :: .literal c :: items =>
    isDigit c = false ∧ IsDelimited (.literal c :: items)
  | .field _ :: items => IsDelimited items

theorem isDelimited_layoutFormat : layoutFormat.IsDelimited := by
  simp [layoutFormat, IsDelimited]
  decide

theorem isDelimited_keywordFormat : keywordFormat.IsDelimited := by
  simp [keywordFormat, IsDelimited]
  decide

variable {items : Format} {text : List Char} {values others : List (Field × Nat)}

/-- What follows a field begins with no digit. -/
theorem IsDelimited.stops {field : Field}
    (delimited : IsDelimited (.field field :: items))
    (spells : Format.Spells items text values) :
    IsDelimited items ∧ ∀ c ∈ text.head?, isDigit c = false := by
  cases spells with
  | nil => exact ⟨trivial, nofun⟩
  | literal => exact ⟨delimited.2, by simpa using delimited.1⟩
  | @gap _ blanks _ _ nonempty blank =>
      refine ⟨delimited, ?_⟩
      intro c first
      rcases List.exists_cons_of_ne_nil nonempty with ⟨d, others, rfl⟩
      obtain rfl : d = c := by simpa using first
      by_contra digit
      have solid := isBlank_of_digit (Bool.eq_true_of_not_eq_false digit)
      rw [blank d List.mem_cons_self] at solid
      cases solid
  | field => exact delimited.elim

/-- What follows a gap begins with no blank. -/
theorem IsDelimited.stops_gap (delimited : IsDelimited (.gap :: items))
    (spells : Format.Spells items text values) :
    IsDelimited items ∧ ∀ c ∈ text.head?, isBlank c = false := by
  cases spells with
  | field spells others =>
      refine ⟨delimited.2, ?_⟩
      intro c first
      apply spells.isBlank_head delimited.1
      rcases List.exists_cons_of_ne_nil spells.ne_nil with ⟨d, others, rfl⟩
      exact first
  | nil => exact delimited.elim
  | literal => exact delimited.elim
  | gap => exact delimited.elim

/-- Where separators keep the fields apart, a text spells one list of values. -/
theorem Spells.unique {format : Format} (delimited : format.IsDelimited)
    (spells : format.Spells text values)
    (spellsToo : format.Spells text others) :
    values = others := by
  have general : ∀ other, format.Spells other others → other = text →
      values = others := by
    clear spellsToo
    induction spells generalizing others with
    | nil =>
        intro other spellsToo same
        cases spellsToo
        rfl
    | literal _ ih =>
        intro other spellsToo same
        cases spellsToo with
        | literal spellsToo =>
            exact ih delimited _ spellsToo (List.cons.inj same).2
    | gap nonempty blank spells ih =>
        intro other spellsToo same
        cases spellsToo with
        | gap nonemptyToo blankToo spellsToo =>
            rcases delimited.stops_gap spells with ⟨delimits, stops⟩
            have stopsToo := (delimited.stops_gap spellsToo).2
            have rest := (run_unique blankToo blank stopsToo stops same).2
            exact ih delimits _ spellsToo rest
    | field spellsField spells ih =>
        intro other spellsToo same
        cases spellsToo with
        | field spellsFieldToo spellsToo =>
            rcases delimited.stops spells with ⟨delimits, stops⟩
            have stopsToo := (delimited.stops spellsToo).2
            rcases spellsFieldToo.unique spellsField stopsToo stops same with
              ⟨rfl, rest⟩
            rw [ih delimits _ spellsToo rest]
  exact general text spellsToo rfl

end Format

/-! ## Points in time -/

/-- The value of a field in the notation of a point in time. -/
def DateTime.part (time : DateTime) : Field → Nat
  | .year => time.date.year
  | .month | .monthName => time.date.month
  | .day => time.date.day
  | .hour => time.hour
  | .minute => time.minute
  | .second => time.second

/-- The text is a date in the format, and this is the point in time that it
says. -/
def Format.Expresses (format : Format) (text : List Char) (time : DateTime) :
    Prop :=
  ∃ values, format.Spells text values ∧
    ∀ field value, (field, value) ∈ values → time.part field = value

/-- The fields of a format in order. -/
def Format.fields (format : Format) : List Field :=
  format.filterMap fun
    | .field field => some field
    | _ => none

/-- Each of the six numbers of a point in time is a field of the format, once. -/
structure Format.IsComplete (format : Format) : Prop where
  once : format.fields.Nodup
  month : Field.month ∈ format.fields ↔ Field.monthName ∉ format.fields
  others : ∀ field : Field, field = .month ∨ field = .monthName ∨
    field ∈ format.fields

theorem Format.isComplete_layoutFormat : layoutFormat.IsComplete where
  once := by decide
  month := by decide
  others field := by cases field <;> decide

theorem Format.isComplete_keywordFormat : keywordFormat.IsComplete where
  once := by decide
  month := by decide
  others field := by cases field <;> decide

theorem Format.Spells.fields_eq {format : Format} {text : List Char}
    {values : List (Field × Nat)} (spells : format.Spells text values) :
    values.map Prod.fst = format.fields := by
  induction spells with
  | nil => rfl
  | literal _ ih => exact ih
  | gap _ _ _ ih => exact ih
  | field _ _ ih => exact congrArg _ ih

theorem DateTime.parts_of_of? {year month day hour minute second : Nat}
    {time : DateTime}
    (found : DateTime.of? year month day hour minute second = some time) :
    time.date.year = year ∧ time.date.month = month ∧ time.date.day = day ∧
      time.hour = hour ∧ time.minute = minute ∧ time.second = second := by
  simp only [DateTime.of?, Date.of?, Option.bind_eq_bind,
    Option.bind_eq_some_iff] at found
  rcases found with ⟨date, dated, timed⟩
  split at dated
  · cases dated
    split at timed
    · cases timed
      exact ⟨rfl, rfl, rfl, rfl, rfl, rfl⟩
    · cases timed
  · cases dated

theorem DateTime.eq_of_part_eq {time other : DateTime}
    (same : ∀ field, time.part field = other.part field) :
    time = other := by
  have year := same .year
  have month := same .month
  have day := same .day
  have hour := same .hour
  have minute := same .minute
  have second := same .second
  rcases time with ⟨⟨_, _, _, _⟩, _, _, _, _⟩
  rcases other with ⟨⟨_, _, _, _⟩, _, _, _, _⟩
  simp only [part] at year month day hour minute second
  subst year month day hour minute second
  rfl

/-- Where no key has two values, each value is found. -/
theorem lookup_of_mem_of_nodup {Key Value : Type} [BEq Key] [LawfulBEq Key]
    {values : List (Key × Value)} (once : (values.map Prod.fst).Nodup)
    {key : Key} {value : Value} (member : (key, value) ∈ values) :
    values.lookup key = some value := by
  rcases List.append_of_mem member with ⟨front, behind, rfl⟩
  refine List.lookup_eq_some_iff.mpr ⟨front, behind, rfl, ?_⟩
  intro other before
  rw [List.map_append, List.nodup_append] at once
  have apart := once.2.2 other.1 (List.mem_map_of_mem before) key (by simp)
  simpa using apart.symm

/-- What fields describe has these fields, unless two of them are the month. -/
theorem part_of_dateTimeOfFields? {values : List (Field × Nat)}
    {time : DateTime} (described : dateTimeOfFields? values = some time)
    {field : Field} {value : Nat} (known : values.lookup field = some value)
    (month : field = .monthName → values.lookup .month = none) :
    time.part field = value := by
  simp only [dateTimeOfFields?, Option.bind_eq_bind,
    Option.bind_eq_some_iff] at described
  rcases described with ⟨year, hasYear, monthValue, hasMonth, day, hasDay, hour,
    hasHour, minute, hasMinute, second, hasSecond, found⟩
  rcases DateTime.parts_of_of? found with
    ⟨rfl, rfl, rfl, rfl, rfl, rfl⟩
  cases field with
  | monthName =>
      rw [month rfl, Option.none_or, known] at hasMonth
      exact (Option.some.inj hasMonth).symm
  | month =>
      rw [known] at hasMonth
      exact (Option.some.inj hasMonth).symm
  | year => exact (Option.some.inj (known.symm.trans hasYear)).symm
  | day => exact (Option.some.inj (known.symm.trans hasDay)).symm
  | hour => exact (Option.some.inj (known.symm.trans hasHour)).symm
  | minute => exact (Option.some.inj (known.symm.trans hasMinute)).symm
  | second => exact (Option.some.inj (known.symm.trans hasSecond)).symm

namespace Format

variable {format : Format} {text : List Char} {time other : DateTime}

/-- A text that is read as a date in a format is one and says this date. -/
theorem expresses_of_parse? (complete : format.IsComplete)
    (reads : format.parse? text = some time) :
    format.Expresses text time := by
  rcases Option.bind_eq_some_iff.mp reads with ⟨⟨values, left⟩, read, ends⟩
  rcases spells_of_read read with ⟨written, rfl, spells⟩
  dsimp only at ends
  split at ends
  · rename_i nothing
    rw [List.isEmpty_iff.mp nothing, List.append_nil]
    have keys := spells.fields_eq
    refine ⟨values, spells, fun field value member => ?_⟩
    have known := lookup_of_mem_of_nodup (keys ▸ complete.once) member
    refine part_of_dateTimeOfFields? ends known ?_
    rintro rfl
    have named : Field.monthName ∈ format.fields := by
      rw [← keys]
      exact List.mem_map_of_mem member
    rw [List.lookup_eq_none_iff]
    rintro ⟨other, number⟩ inside
    have present : other ∈ format.fields := by
      rw [← keys]
      exact List.mem_map_of_mem inside
    have absent := mt complete.month.mp (not_not_intro named)
    simpa using fun same : Field.month = other => absent (same ▸ present)
  · cases ends

/-- A text says one point in time at most. -/
theorem Expresses.unique (complete : format.IsComplete)
    (delimited : format.IsDelimited) (expresses : format.Expresses text time)
    (expressesToo : format.Expresses text other) :
    time = other := by
  rcases expresses with ⟨values, spells, parts⟩
  rcases expressesToo with ⟨others, spellsToo, partsToo⟩
  obtain rfl := spells.unique delimited spellsToo
  have same : ∀ field ∈ format.fields, time.part field = other.part field := by
    intro field member
    rw [← spells.fields_eq] at member
    rcases List.mem_map.mp member with ⟨⟨field, value⟩, inside, rfl⟩
    rw [parts field value inside, partsToo field value inside]
  -- The month has the same number under both of its fields.
  have month : time.date.month = other.date.month := by
    by_cases numbered : Field.month ∈ format.fields
    · exact same .month numbered
    · exact same .monthName (not_not.mp (mt complete.month.mpr numbered))
  apply DateTime.eq_of_part_eq
  intro field
  rcases complete.others field with rfl | rfl | member
  · exact month
  · exact month
  · exact same field member

end Format

end ClusterLog.Calendar
