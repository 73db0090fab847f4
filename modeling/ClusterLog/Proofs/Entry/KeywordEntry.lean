import ClusterLog.Entry.Reading
import ClusterLog.Proofs.Calendar.Letters
import ClusterLog.Proofs.Calendar.Stamp
import ClusterLog.Proofs.Severity
import ClusterLog.Proofs.Text.Trim
import Mathlib.Data.List.TakeDrop
import Mathlib.Data.List.TakeWhile

/-!
# Entries of severity names

A record that no layout recognises is cut at a severity name behind the first
comma or, without one, at the last name in front of it.  A date holds no
severity name and ends with a digit, so a cut in front of which there is a date
is one at the leftmost name of the text, wherever the commas are.
-/

namespace ClusterLog.Entry

open Calendar Text Severity

variable {text head tail date message before after : List Char}
variable {severity : Severity} {time : DateTime} {entry : Entry}

/-! ## The first comma -/

/-- A text is cut in front of its first comma, or at its end if it has none. -/
structure IsCutAtComma (text head tail : List Char) : Prop where
  whole : text = head ++ tail
  noComma : ',' ∉ head
  comma : ∀ c ∈ tail.head?, c = ','

theorem IsCutAtComma.border (cut : IsCutAtComma text head tail) :
    IsBorder head tail :=
  Or.inr fun c first => by rw [cut.comma c first]; rfl

theorem exists_isCutAtComma (text : List Char) :
    ∃ head tail, IsCutAtComma text head tail :=
  ⟨text.takeWhile (· != ','), text.dropWhile (· != ','), {
    whole := List.takeWhile_append_dropWhile.symm
    noComma := fun inside => by simpa using List.mem_takeWhile_imp inside
    comma := fun c first => by simpa using head_dropWhile (· != ',') text c first }⟩

/-- A name in the second part does not begin it. -/
theorem IsCutAtComma.exists_comma (cut : IsCutAtComma text head tail)
    (behind : tail = before ++ severity.name.toList ++ after) :
    ∃ rest, before = ',' :: rest := by
  cases before with
  | nil =>
      have letters := name_isAsciiLetter severity
      rcases List.exists_cons_of_ne_nil (name_ne_nil severity) with
        ⟨c, others, name⟩
      rw [name] at letters
      have comma := cut.comma c (by rw [behind, name]; rfl)
      have letter := letters c List.mem_cons_self
      rw [comma] at letter
      cases letter
  | cons c rest =>
      rw [cut.comma c (by rw [behind]; rfl)]
      exact ⟨rest, rfl⟩

theorem IsCutAtComma.span_eq (cut : IsCutAtComma text head tail) :
    text.span (· != ',') = (head, tail) := by
  have fits : ∀ c ∈ head, (c != ',') = true := by
    intro c inside
    simpa using ne_of_mem_of_not_mem inside cut.noComma
  rw [List.span_eq_takeWhile_dropWhile, cut.whole,
    List.takeWhile_append_of_pos fits, List.dropWhile_append_of_pos fits]
  cases tail with
  | nil => simp
  | cons c tail => simp [cut.comma c rfl]

/-- The name at which a text is cut. -/
theorem IsCutAtComma.cutAtKeyword?_eq (cut : IsCutAtComma text head tail) :
    cutAtKeyword? text =
      match firstKeyword? tail with
      | some (_, severity, message) => some (head, severity, message)
      | none => (lastKeyword? head).map fun (date, severity, message) =>
          (date, severity, message ++ tail) := by
  unfold cutAtKeyword?
  exact cut.span_eq ▸ rfl

/-- A text is cut if it has a severity name. -/
theorem cutAtKeyword?_eq_none_iff :
    cutAtKeyword? text = none ↔
      ∀ severity : Severity, ¬ severity.name.toList <:+: text := by
  rcases exists_isCutAtComma text with ⟨head, tail, cut⟩
  constructor
  · intro uncut severity inside
    rw [cut.cutAtKeyword?_eq] at uncut
    split at uncut
    · cases uncut
    · rename_i nowhere
      rw [Option.map_eq_none_iff, lastKeyword?_eq_none_iff] at uncut
      rw [firstKeyword?_eq_none_iff] at nowhere
      rw [cut.whole] at inside
      exact cut.border.not_isInfix uncut nowhere severity inside
  · intro foreign
    have inHead : lastKeyword? head = none :=
      lastKeyword?_eq_none_iff.mpr fun severity inside =>
        foreign severity (cut.whole ▸ inside.trans (List.prefix_append _ _).isInfix)
    have inTail : firstKeyword? tail = none :=
      firstKeyword?_eq_none_iff.mpr fun severity inside =>
        foreign severity (cut.whole ▸ inside.trans (List.suffix_append _ _).isInfix)
    rw [cut.cutAtKeyword?_eq, inTail, inHead]
    rfl

/-! ## Dates in front of a name -/

/-- The text in front of the first comma or, where the leftmost name comes before
any comma and no other one follows, in front of the name. -/
inductive IsDateText (text before : List Char) : List Char → Prop
  | comma {date rest : List Char} (noComma : ',' ∉ date)
      (first : before = date ++ ',' :: rest) : IsDateText text before date
  | keyword (noComma : ',' ∉ before)
      (only : ∀ {front rest : List Char} {other : Severity},
        text = front ++ other.name.toList ++ rest → front = before) :
      IsDateText text before before

/-- Text that is a date up to blanks has no severity name and ends with no
letter. -/
theorem date_of_parse?_trim
    (reads : keywordFormat.parse? (trim date) = some time) :
    (∀ severity : Severity, ¬ severity.name.toList <:+: date) ∧
      ∀ c ∈ date.getLast?, isAsciiLetter c = false := by
  rcases letters_of_parse?_keywordFormat reads with ⟨few, d, last, digit⟩
  rw [countP_trim fun _ => isAsciiLetter_of_blank] at few
  refine ⟨not_isInfix_of_countP few, fun c ends => ?_⟩
  rw [Bool.eq_false_iff]
  intro letter
  have same := getLast?_trim (isBlank_of_asciiLetter letter) ends
  rw [last, Option.some.injEq] at same
  rw [← same, isAsciiLetter_of_digit digit] at letter
  cases letter

/-- Where there is a date in front of the cut, it is one at the leftmost name. -/
theorem isLeftmost_of_cutAtKeyword?
    (found : cutAtKeyword? text = some (date, severity, after))
    (reads : keywordFormat.parse? (trim date) = some time) :
    ∃ before, IsLeftmost text before severity after ∧
      IsDateText text before date := by
  rcases exists_isCutAtComma text with ⟨head, tail, cut⟩
  rcases date_of_parse?_trim reads with ⟨foreign, last⟩
  rw [cut.cutAtKeyword?_eq] at found
  split at found
  · rename_i between _ _ first
    cases found
    have inTail := firstKeyword?_eq_some_iff.mp first
    have leftmost := inTail.append_left foreign cut.border
    rw [← cut.whole] at leftmost
    rcases cut.exists_comma inTail.cut with ⟨rest, rfl⟩
    exact ⟨_, leftmost, .comma cut.noComma rfl⟩
  · rename_i nowhere
    rcases Option.map_eq_some_iff.mp found with
      ⟨⟨_, _, message⟩, inHead, same⟩
    cases same
    have parts := lastKeyword?_eq_some inHead
    have here : IsLeftmost (severity.name.toList ++ (message ++ tail)) []
        severity (message ++ tail) := ⟨rfl, fun _ => Nat.zero_le _⟩
    have leftmost := here.append_left foreign (Or.inl last)
    have whole : text = date ++ (severity.name.toList ++ (message ++ tail)) := by
      rw [cut.whole, parts]
      simp
    rw [← whole, List.append_nil] at leftmost
    refine ⟨date, leftmost, .keyword ?_ ?_⟩
    · intro inside
      exact cut.noComma (by rw [parts]; simp [inside])
    · intro front rest other cutToo
      have atLeast := leftmost.first cutToo
      have twice := cutToo
      rw [cut.whole] at twice
      rcases cut.border.cut_cases twice with
        ⟨middle, inside, -⟩ | ⟨middle, -, behind⟩
      · have atMost := length_le_of_lastKeyword? inHead inside
        exact (cut_unique leftmost.cut cutToo
          (Nat.le_antisymm atLeast atMost)).1.symm
      · exact absurd ⟨middle, rest, behind.symm⟩
          (firstKeyword?_eq_none_iff.mp nowhere other)

/-- A text is cut at the leftmost name if that is behind the first comma or is
the only one. -/
theorem cutAtKeyword?_of_isLeftmost
    (leftmost : IsLeftmost text before severity after)
    (dated : IsDateText text before date) :
    cutAtKeyword? text = some (date, severity, after) := by
  cases dated with
  | @comma _ rest noComma first =>
      have cut : IsCutAtComma text date
          (',' :: rest ++ severity.name.toList ++ after) := {
        whole := by rw [leftmost.cut, first]; simp
        noComma := noComma
        comma := by simp }
      have inTail : IsLeftmost (',' :: rest ++ severity.name.toList ++ after)
          (',' :: rest) severity after := by
        refine ⟨rfl, ?_⟩
        intro front others other cutToo
        have whole : text = (date ++ front) ++ other.name.toList ++ others := by
          rw [cut.whole, cutToo]
          simp
        have start := leftmost.first whole
        rw [first, List.length_append, List.length_append] at start
        omega
      rw [cut.cutAtKeyword?_eq, firstKeyword?_eq_some_iff.mpr inTail]
  | keyword noComma only =>
      rcases exists_isCutAtComma text with ⟨head, tail, cut⟩
      have inTail : firstKeyword? tail = none := by
        rw [firstKeyword?_eq_none_iff]
        rintro other ⟨front, rest, behind⟩
        rcases cut.exists_comma behind.symm with ⟨others, rfl⟩
        have whole : text =
            (head ++ ',' :: others) ++ other.name.toList ++ rest := by
          rw [cut.whole, ← behind]
          simp
        exact noComma (by rw [← only whole]; simp)
      rw [cut.cutAtKeyword?_eq, inTail]
      cases inHead : lastKeyword? head with
      | none =>
          have uncut : cutAtKeyword? text = none := by
            rw [cut.cutAtKeyword?_eq, inTail, inHead]
            rfl
          exact absurd ⟨date, after, leftmost.cut.symm⟩
            (cutAtKeyword?_eq_none_iff.mp uncut severity)
      | some found =>
          rcases found with ⟨front, other, message⟩
          have parts := lastKeyword?_eq_some inHead
          have whole : text = front ++ other.name.toList ++ (message ++ tail) := by
            rw [cut.whole, parts]
            simp
          obtain rfl := only whole
          rcases cut_unique leftmost.cut whole rfl with ⟨-, rfl, rfl⟩
          rfl

/-! ## Records -/

theorem stamp_ne_empty (time : DateTime) : time.stamp ≠ "" := by
  intro missing
  rcases DateTime.beginsPositive_stamp time with ⟨c, rest, -, digits, -⟩
  rw [missing] at digits
  cases digits

/-- The entry of a severity name, what follows it, and a date. -/
def ofKeyword (severity : Severity) (after : List Char) (time : DateTime) :
    Entry where
  level := severity.name
  message := some (String.ofList (trim after))
  timestamp := time.stamp

/-- Entries with a timestamp come from a cut behind a date. -/
theorem ofKeyword?_eq_some_iff :
    ofKeyword? text = some entry ∧ entry.timestamp ≠ "" ↔
      ∃ date severity after time,
        cutAtKeyword? text = some (date, severity, after) ∧
        keywordFormat.parse? (trim date) = some time ∧
        entry = ofKeyword severity after time := by
  constructor
  · rintro ⟨reads, stamped⟩
    rcases Option.map_eq_some_iff.mp reads with
      ⟨⟨date, severity, after⟩, cut, rfl⟩
    dsimp only at stamped ⊢
    split at stamped
    · exact absurd rfl stamped
    · rw [ofFields] at stamped ⊢
      split at stamped
      · rename_i undated _ time parsed
        refine ⟨date, severity, after, time, cut, parsed, ?_⟩
        rw [if_neg undated, ofKeyword, String.ofList_toList]
      · exact absurd rfl stamped
  · rintro ⟨date, severity, after, time, cut, parsed, rfl⟩
    rcases letters_of_parse?_keywordFormat parsed with ⟨-, c, last, -⟩
    have nonempty : trim date ≠ [] := by
      intro missing
      rw [missing] at last
      cases last
    refine ⟨?_, stamp_ne_empty time⟩
    simp [ofKeyword?, cut, nonempty, ofFields, parsed, ofKeyword]

/-- A record is read by its keyword if it has one.  An entry with a timestamp has
the leftmost severity name of the record as its level, and what follows it as its
message; its timestamp is the one of the date in front of the first comma or, if
the name comes before any comma, in front of the name. -/
theorem ofKeyword?_leftmost (text : List Char) :
    (ofKeyword? text = none ↔
      ∀ severity : Severity, ¬ severity.name.toList <:+: text) ∧
    ∀ entry, ofKeyword? text = some entry ∧ entry.timestamp ≠ "" ↔
      ∃ before severity after date time,
        IsLeftmost text before severity after ∧
        IsDateText text before date ∧
        keywordFormat.parse? (trim date) = some time ∧
        (∀ other, keywordFormat.Expresses (trim date) other ↔ other = time) ∧
        entry = ofKeyword severity after time := by
  refine ⟨Option.map_eq_none_iff.trans cutAtKeyword?_eq_none_iff, fun entry => ?_⟩
  rw [ofKeyword?_eq_some_iff]
  constructor
  · rintro ⟨date, severity, after, time, cut, parsed, rfl⟩
    rcases isLeftmost_of_cutAtKeyword? cut parsed with ⟨before, leftmost, dated⟩
    have expressed := Format.expresses_of_parse?
      Format.isComplete_keywordFormat parsed
    refine ⟨before, severity, after, date, time, leftmost, dated, parsed,
      fun other => ⟨fun expresses => ?_, fun same => same ▸ expressed⟩, rfl⟩
    exact expresses.unique Format.isComplete_keywordFormat
      Format.isDelimited_keywordFormat expressed
  · rintro ⟨before, severity, after, date, time, leftmost, dated, parsed, -,
      rfl⟩
    exact ⟨date, severity, after, time,
      cutAtKeyword?_of_isLeftmost leftmost dated, parsed, rfl⟩

example :
    ofKeyword? "16 Jun 2020 04:00:22,644 [WARN] (Stage-1) no ERROR".toList =
      some {
        level := "WARN"
        message := some "] (Stage-1) no ERROR"
        timestamp := "20200616040022" } := by
  decide +kernel

end ClusterLog.Entry
