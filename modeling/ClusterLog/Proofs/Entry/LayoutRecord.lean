import ClusterLog.Entry.Reading
import ClusterLog.Proofs.Calendar.Spelling
import ClusterLog.Proofs.Layout.FieldLayout
import ClusterLog.Proofs.Text.Trim
import Mathlib.Data.List.Nodup

/-!
# Records of configured layouts

Log records as a layout of fields writes them, and their entries.  Whatever the
order of the fields is, an entry has the level, the time and the message of its
record.  The match is followed from left to right: each piece takes what was
written for its slot, and the space behind it takes the blanks up to the next
slot.
-/

namespace ClusterLog

open Text Calendar Layout

/-- A log record, with what a layout of fields needs to tell its parts apart. -/
structure LayoutRecord where
  level : List Char
  thread : List Char
  time : DateTime
  /-- The digits behind the comma of the date. -/
  fraction : List Char
  /-- The text in place of the message. -/
  tail : List Char
  level_nonempty : level ≠ []
  level_word : ∀ c ∈ level, isWord c = true
  thread_unclosed : ']' ∉ thread
  modern : 1000 ≤ time.date.year
  fraction_digits : ∀ c ∈ fraction, isAsciiDigit c = true

namespace LayoutRecord

/-- The spaces that fill a level up to five characters. -/
def padding (record : LayoutRecord) (padded : Bool) : List Char :=
  if padded then List.replicate (5 - record.level.length) ' ' else []

/-- What stands in a slot. -/
def rendered (record : LayoutRecord) : Slot → List Char
  | .level padded => record.level ++ record.padding padded
  | .date _ => record.time.layoutChars ++ ',' :: record.fraction
  | .thread => '[' :: (record.thread ++ [']'])

/-- What stands in slots, with a space behind each of them, and the message. -/
def renderFrom (record : LayoutRecord) (slots : List Slot) : List Char :=
  slots.foldr (fun slot rest => record.rendered slot ++ ' ' :: rest) record.tail

/-- A record as a layout writes it. -/
def render (record : LayoutRecord) (layout : FieldLayout) : List Char :=
  record.renderFrom layout.slots

/-- The entry of a record. -/
def entry (record : LayoutRecord) : Entry where
  level := String.ofList record.level
  message := some (String.ofList (trim record.tail))
  timestamp := String.ofList record.time.fourteenDigits

/-! ## The match -/

/-- The text that a match keeps for a field. -/
def kept (record : LayoutRecord) : Layout.Field → List Char
  | .level => record.level
  | .timestamp => record.time.layoutChars
  | .message => record.tail.dropWhile isBlank

/-- The texts that a match keeps, the latest first. -/
def captures (record : LayoutRecord) (positions : List (Layout.Field × Nat)) :
    Captures :=
  (positions.map fun position => (position.2, record.kept position.1)).reverse

theorem padding_blank (record : LayoutRecord) (padded : Bool) :
    ∀ c ∈ record.padding padded, isBlank c = true := by
  intro c inside
  rw [padding] at inside
  split at inside
  · rw [List.eq_of_mem_replicate inside]
    rfl
  · cases inside

/-- A slot begins with no blank. -/
theorem rendered_head (record : LayoutRecord) (slot : Slot) :
    ∃ c others, record.rendered slot = c :: others ∧ isBlank c = false := by
  cases slot with
  | level padded =>
      rcases List.exists_cons_of_ne_nil record.level_nonempty with
        ⟨c, others, split⟩
      exact ⟨c, others ++ record.padding padded, by simp [rendered, split],
        isBlank_of_word (record.level_word c (by simp [split]))⟩
  | date long =>
      rcases record.time.layoutChars_eq_cons with ⟨c, others, split, digit⟩
      exact ⟨c, others ++ ',' :: record.fraction, by simp [rendered, split],
        isBlank_of_asciiDigit digit⟩
  | thread => exact ⟨'[', _, rfl, rfl⟩

theorem dropWhile_renderFrom (record : LayoutRecord) (slot : Slot)
    (slots : List Slot) :
    (record.renderFrom (slot :: slots)).dropWhile isBlank =
      record.renderFrom (slot :: slots) := by
  rcases record.rendered_head slot with ⟨c, others, split, nonblank⟩
  have front : record.renderFrom (slot :: slots) =
      c :: (others ++ ' ' :: record.renderFrom slots) := by
    simp [renderFrom, split]
  rw [front, List.dropWhile_cons_of_neg (by simp [nonblank])]

/-- What the first piece keeps is kept before all else. -/
theorem captures_pieces (record : LayoutRecord) (piece : Piece)
    (pieces : List Piece) (before : Captures) :
    record.captures ((piece :: .space :: pieces).filterMap (·.position?)) ++
        before =
      record.captures (pieces.filterMap (·.position?)) ++
        (record.captures piece.position?.toList ++ before) := by
  cases piece <;> simp [captures, Piece.position?]

/-- The piece of a slot takes what stands there, and the space behind it all
blanks up to what follows. -/
theorem match?_slot (record : LayoutRecord) {α : Type} {total count : Nat}
    {slot : Slot} {others : List Pattern} {before : Captures}
    {next : List Char → Captures → Option α} {found : α} {rest : List Char}
    (goesOn : (Pattern.sequence others).match? total (rest.dropWhile isBlank)
      (record.captures (slot.piece count).position?.toList ++ before) next =
        some found) :
    (Pattern.sequence ((slot.piece count).patterns ++
        (Piece.space.patterns ++ others))).match? total
      (record.rendered slot ++ ' ' :: rest) before next = some found := by
  have single : ∀ c ∈ [' '], isBlank c = true := by decide
  cases slot with
  | level padded =>
      have gap : ∀ c ∈ record.padding padded ++ [' '], isBlank c = true := by
        intro c inside
        rcases List.mem_append.mp inside with fill | space
        · exact record.padding_blank padded c fill
        · exact single c space
      have text : record.rendered (.level padded) ++ ' ' :: rest =
          record.level ++ (record.padding padded ++ [' '] ++ rest) := by
        simp [rendered]
      rw [text]
      apply match?_level record.level_word record.level_nonempty
      · intro c first
        rw [List.head?_append_of_ne_nil _ (by simp)] at first
        exact isWord_of_blank (gap c (List.mem_of_mem_head? first))
      · exact match?_space gap goesOn
  | date long =>
      have text : record.rendered (.date long) ++ ' ' :: rest =
          record.time.layoutChars ++ ',' ::
            (record.fraction ++ ([' '] ++ rest)) := by
        simp [rendered]
      rw [text]
      apply match?_date (DateTime.comma_not_mem_layoutChars _)
        (fun c inside => isDigit_of_asciiDigit (record.fraction_digits c inside))
        (by simp; rfl)
      exact match?_space single goesOn
  | thread =>
      have text : record.rendered .thread ++ ' ' :: rest =
          '[' :: (record.thread ++ ']' :: ([' '] ++ rest)) := by
        simp [rendered]
      rw [text]
      apply match?_thread record.thread_unclosed
      exact match?_space single goesOn

/-- The pieces of slots take the slots of a record and its message. -/
theorem match?_slots (record : LayoutRecord) {total : Nat} {slots : List Slot}
    {seen : List Layout.Field} (once : (slots.map Slot.token).Nodup)
    (fresh : ∀ field ∈ seen, .field field ∉ slots.map Slot.token)
    (last : .message ∉ seen) (before : Captures) :
    (Pattern.sequence
        ((piecesFrom seen (FieldLayout.tokensFrom slots)).flatMap
          (·.patterns))).match? total
        ((record.renderFrom slots).dropWhile isBlank) before
        (fun rest captures => if rest.isEmpty then some captures else none) =
      some (record.captures
        ((piecesFrom seen (FieldLayout.tokensFrom slots)).filterMap
          (·.position?)) ++ before) := by
  induction slots generalizing seen before with
  | nil =>
      have pieces : piecesFrom seen (FieldLayout.tokensFrom []) =
          [.first .message (seen.length + 1)] := by
        simp [FieldLayout.tokensFrom, piecesFrom, last]
      rw [pieces, List.flatMap_singleton]
      exact match?_message
        (by simp [captures, kept, Piece.position?, renderFrom])
  | cons slot slots ih =>
      rcases List.nodup_cons.mp once with ⟨apart, others⟩
      have new : ∀ field ∈ slot.field?, field ∉ seen := by
        intro field places known
        exact fresh field known (by simp [Slot.token_of_field? places])
      have freshNext : ∀ field ∈ slot.field?.toList ++ seen,
          .field field ∉ slots.map Slot.token := by
        intro field known
        rcases List.mem_append.mp known with here | before
        · rw [← Slot.token_of_field? (by simpa using here)]
          exact apart
        · exact fun later =>
            fresh field before (List.mem_cons_of_mem _ later)
      have lastNext : .message ∉ slot.field?.toList ++ seen := by
        cases slot <;> simpa [Slot.field?] using last
      have text : record.renderFrom (slot :: slots) =
          record.rendered slot ++ ' ' :: record.renderFrom slots := rfl
      have pieces := Slot.piecesFrom_token new (FieldLayout.tokensFrom slots)
      rw [dropWhile_renderFrom, FieldLayout.tokensFrom, List.foldr_cons,
        ← FieldLayout.tokensFrom, pieces, text, captures_pieces]
      exact record.match?_slot (ih others freshNext lastNext _)

/-! ## Fields -/

/-- What a layout begins with begins with no blank. -/
theorem exists_render_eq_cons (record : LayoutRecord) (layout : FieldLayout) :
    ∃ c others, record.render layout = c :: others ∧ isBlank c = false := by
  rcases layout with ⟨slots, message, once, has_level, has_date⟩
  cases slots with
  | nil => simp at has_level
  | cons slot slots =>
      rcases record.rendered_head slot with ⟨c, others, split, nonblank⟩
      exact ⟨c, others ++ ' ' :: record.renderFrom slots,
        by simp [render, renderFrom, split], nonblank⟩

theorem matchWhole?_render (record : LayoutRecord) (layout : FieldLayout) :
    layout.grammar.pattern.matchWhole? (record.render layout) =
      some (record.captures layout.grammar.positions) := by
  have whole : (record.renderFrom layout.slots).dropWhile isBlank =
      record.render layout := by
    rcases record.exists_render_eq_cons layout with ⟨c, others, split, nonblank⟩
    rw [← render, split, List.dropWhile_cons_of_neg (by simp [nonblank])]
  have found := @match?_slots record (record.render layout).length layout.slots
    [] layout.once (by simp) (by simp) []
  rw [whole, List.append_nil] at found
  exact found

/-- Each field is read as the text that the match keeps for it. -/
theorem capturedField_eq (record : LayoutRecord) (layout : FieldLayout)
    (field : Layout.Field) :
    Entry.capturedField layout.grammar
        (record.captures layout.grammar.positions) field =
      trim (record.kept field) := by
  rcases List.mem_map.mp (layout.mem_fields field) with
    ⟨⟨placed, ordinal⟩, member, rfl⟩
  have position : layout.grammar.position? placed = some ordinal :=
    lookup_of_mem_of_nodup layout.nodup_fields member
  have ordinals :
      ((record.captures layout.grammar.positions).map Prod.fst).Nodup := by
    rw [captures, List.map_reverse, List.nodup_reverse, List.map_map]
    exact layout.nodup_ordinals
  have keeps : (ordinal, record.kept placed) ∈
      record.captures layout.grammar.positions := by
    rw [captures, List.mem_reverse]
    exact List.mem_map.mpr ⟨(placed, ordinal), member, rfl⟩
  rw [Entry.capturedField, position]
  simp [lookup_of_mem_of_nodup ordinals keeps]

theorem trim_level (record : LayoutRecord) : trim record.level = record.level :=
  trim_eq_self
    (fun c first =>
      isBlank_of_word (record.level_word c (List.mem_of_mem_head? first)))
    (fun c last =>
      isBlank_of_word (record.level_word c (List.mem_of_getLast? last)))

/-- The text of a record is read as its entry. -/
theorem ofText_render (record : LayoutRecord) (layout : FieldLayout) :
    Entry.ofText layout.grammar (record.render layout) = record.entry := by
  have written : isBlankText (record.render layout) = false := by
    rcases record.exists_render_eq_cons layout with ⟨c, others, split, nonblank⟩
    simp [isBlankText, split, nonblank]
  rw [Entry.ofText, written, if_neg (by simp), Entry.ofLayout?,
    matchWhole?_render]
  simp [capturedField_eq, kept, trim_level, record.level_nonempty,
    DateTime.trim_layoutChars, DateTime.layoutChars_ne_nil, Entry.ofFields,
    DateTime.parse?_layoutChars record.time, entry, DateTime.stamp,
    DateTime.stampChars_eq_fourteenDigits record.modern]

/-- Whatever the order of its fields is, a layout that is not the stock one
gives back the level, the time and the message of each record it writes. -/
theorem ofText_compile_render (layout : FieldLayout) (record : LayoutRecord)
    (other : layout.text ≠ stock) :
    Entry.ofText (compile layout.text) (record.render layout) =
      { level := String.ofList record.level
        message := some (String.ofList (trim record.tail))
        timestamp := String.ofList record.time.fourteenDigits } := by
  rw [FieldLayout.compile_text other]
  exact record.ofText_render layout

/-- A layout that begins with the date and ends with the level. -/
def dated : FieldLayout where
  slots := [.date false, .thread, .level true]
  message := .plain
  once := by decide
  has_level := ⟨true, by decide⟩
  has_date := ⟨false, by decide⟩

/-- A record whose level is no severity, whose thread name looks like a date in
an open bracket, and whose message has two lines. -/
def audited : LayoutRecord where
  level := "AUD".toList
  thread := "io[1, 2019-01-01 00:00:00,".toList
  time := ⟨⟨2021, 3, 31, by decide⟩, 7, 8, 9, by decide⟩
  fraction := "120".toList
  tail := " first, [x] ERROR\n  at b]\n".toList
  level_nonempty := by decide
  level_word := by decide
  thread_unclosed := by decide
  modern := by decide
  fraction_digits := by decide

theorem ofText_compile_render_audited :
    dated.text ≠ stock ∧
      Entry.ofText (compile "%d\x7bISO8601\x7d [%thread] %-5level %msg%n")
        ("2021-03-31 07:08:09,120 [io[1, 2019-01-01 00:00:00,] AUD    " ++
          "first, [x] ERROR\n  at b]\n").toList =
        { level := "AUD", message := some "first, [x] ERROR\n  at b]",
          timestamp := "20210331070809" } :=
  ⟨by decide, audited.ofText_compile_render dated (by decide)⟩

end LayoutRecord

end ClusterLog
