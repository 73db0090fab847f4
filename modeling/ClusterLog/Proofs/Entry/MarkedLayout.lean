import ClusterLog.Proofs.Entry.LayoutRecord
import ClusterLog.Proofs.Entry.StockText

/-!
# The stock layout behind a marker

The stock layout has a grammar of its own.  With a marker in front, which prints
nothing, it gets the grammar that is assembled from its pieces.  The two differ
in what may follow the thread name: the first one asks for a blank behind the
closing bracket, the second one takes the first closing bracket there is.  So
they read the same entry from a record exactly if its thread name has no
closing bracket.
-/

namespace ClusterLog

open Text Calendar Layout

/-- The stock layout as a layout of fields. -/
def stockLayout : FieldLayout where
  slots := [.level true, .thread, .date true]
  message := .withLine
  once := by decide
  has_level := ⟨true, by decide⟩
  has_date := ⟨true, by decide⟩

theorem text_stockLayout : stockLayout.text = stock := by
  decide

theorem compile_marker_stock :
    compile ("%marker" ++ stock) = stockLayout.grammar := by
  rw [← text_stockLayout]
  exact stockLayout.compile_marker

namespace StockText

/-! ## The grammar of the pieces -/

theorem pieces_stockLayout : stockLayout.pieces =
    [.first .level 1, .space, .thread, .space, .first .timestamp 2, .space,
      .first .message 3] :=
  rfl

/-- What the grammar of the pieces keeps.  The thread name ends at its first
closing bracket; the date begins behind it, and ends at the next comma. -/
theorem matchWhole?_pieces {level padding name rest date digits message :
      List Char}
    (word : ∀ c ∈ level, isWord c = true) (nonempty : level ≠ [])
    (blank : ∀ c ∈ padding, isBlank c = true) (unfilled : padding ≠ [])
    (unclosed : ']' ∉ name) (plain : ',' ∉ date)
    (areDigits : ∀ c ∈ digits, isDigit c = true)
    (stops : ∀ c ∈ message.head?, isDigit c = false)
    (split : rest.dropWhile isBlank = date ++ ',' :: (digits ++ message)) :
    stockLayout.grammar.pattern.matchWhole?
        (level ++ (padding ++ '[' :: (name ++ ']' :: rest))) =
      some [(3, message.dropWhile isBlank), (2, date), (1, level)] := by
  have filled : ∀ c ∈ (padding ++ '[' :: (name ++ ']' :: rest)).head?,
      isWord c = false := by
    intro c first
    rw [List.head?_append_of_ne_nil _ unfilled] at first
    exact isWord_of_blank (blank c (List.mem_of_mem_head? first))
  have nothing : ∀ c ∈ ([] : List Char), isBlank c = true := by simp
  rw [FieldLayout.grammar, pieces_stockLayout, Pattern.matchWhole?]
  simp only [Grammar.ofPieces, List.flatMap_cons, List.flatMap_nil,
    List.append_nil]
  apply match?_level word nonempty filled
  apply match?_space blank
  rw [List.dropWhile_cons_of_neg (by decide)]
  apply match?_thread unclosed
  rw [← List.nil_append rest]
  apply match?_space nothing
  rw [split]
  apply match?_date plain areDigits stops
  rw [← List.nil_append message]
  apply match?_space nothing
  apply match?_message
  rfl

/-- What is read from a record whose thread name has a closing bracket. -/
theorem ofText_bracket (record : StockText)
    {name inner date digits message : List Char}
    (thread : record.thread = name ++ ']' :: inner) (unclosed : ']' ∉ name)
    (plain : ',' ∉ date) (areDigits : ∀ c ∈ digits, isDigit c = true)
    (stops : ∀ c ∈ message.head?, isDigit c = false)
    (cut : (inner ++ record.behind).dropWhile isBlank =
      date ++ ',' :: (digits ++ message)) :
    Entry.ofText stockLayout.grammar record.render =
      if (trim date).isEmpty then .invalid
      else .ofFields layoutFormat record.level.name.toList (trim date)
        (trim message) := by
  have text : record.render = record.level.name.toList ++
      (padding record.level ++ '[' ::
        (name ++ ']' :: (inner ++ record.behind))) := by
    simp [render, thread]
  have unfilled : padding record.level ≠ [] := by simp [padding]
  have found := matchWhole?_pieces record.level.name_isWord
    record.level.name_ne_nil (padding_blank record.level) unfilled unclosed
    plain areDigits stops cut
  rw [← text] at found
  have level : stockLayout.grammar.position? .level = some 1 := rfl
  have timestamp : stockLayout.grammar.position? .timestamp = some 2 := rfl
  have last : stockLayout.grammar.position? .message = some 3 := rfl
  rw [Entry.ofText, isBlankText_render, if_neg (by simp), Entry.ofLayout?,
    found]
  simp [Entry.capturedField, level, timestamp, last, List.lookup_cons,
    record.level.name_ne_empty]

theorem entry_ne_invalid (record : StockText) :
    record.entry ≠ Entry.invalid := by
  intro same
  exact record.level.name_ne_empty (congrArg Entry.level same)

/-- A text with a closing bracket is no date. -/
theorem parse?_bracket {text : List Char} (inside : ']' ∈ text) :
    layoutFormat.parse? text = none :=
  Format.parse?_eq_none_of_mem (by simp [layoutFormat]) inside (by decide)
    (by decide) (by simp [layoutFormat])

/-- A message of more than the tail of a record is not the message of its
entry. -/
theorem ofFields_ne_entry (record : StockText) {date message front middle :
      List Char} {c : Char} (nonblank : isBlank c = false)
    (longer : message = front ++ c :: (middle ++ record.tail)) :
    Entry.ofFields layoutFormat record.level.name.toList date (trim message) ≠
      record.entry := by
  intro same
  rw [Entry.ofFields] at same
  split at same
  · have messages := congrArg Entry.message same
    have trimmed : trim message = trim record.tail := by
      simpa using congrArg String.toList (Option.some.inj messages)
    have counts : (trim message).countP (!isBlank ·) =
        message.countP (!isBlank ·) := countP_trim (by simp) message
    rw [trimmed, countP_trim (by simp), longer] at counts
    simp [nonblank] at counts
    omega
  · exact record.entry_ne_invalid same.symm

/-- Behind a closing bracket in the thread name, what is read as the date or as
the message goes wrong. -/
theorem ofText_pieces_ne_entry (record : StockText)
    (inside : ']' ∈ record.thread) :
    Entry.ofText stockLayout.grammar record.render ≠ record.entry := by
  rcases List.eq_append_cons_of_mem inside with
    ⟨name, inner, thread, unclosed⟩
  by_cases comma : ',' ∈ inner
  · -- The date ends inside the thread name, the rest of which is the message.
    rcases List.eq_append_cons_of_mem comma with ⟨date, late, rfl, plain⟩
    have cut : (date ++ ',' :: late ++ record.behind).dropWhile isBlank =
        date.dropWhile isBlank ++ ',' ::
          ((late ++ record.behind).takeWhile isDigit ++
            (late ++ record.behind).dropWhile isDigit) := by
      rw [List.append_assoc, List.cons_append, dropWhile_append_cons (by decide),
        List.takeWhile_append_dropWhile]
    have longer : (late ++ record.behind).dropWhile isDigit =
        late.dropWhile isDigit ++ ']' :: (' ' :: (record.time.layoutChars ++
          ',' :: (record.fraction ++ [' '])) ++ record.tail) := by
      rw [behind, dropWhile_append_cons (by decide)]
      simp
    have stops : ∀ c ∈ ((late ++ record.behind).dropWhile isDigit).head?,
        isDigit c = false := head_dropWhile _ _
    rw [record.ofText_bracket thread unclosed
      (fun again => plain ((List.dropWhile_suffix _).subset again))
      (fun c digit => List.mem_takeWhile_imp digit) stops cut]
    split
    · exact record.entry_ne_invalid.symm
    · exact record.ofFields_ne_entry (by decide) longer
  · -- The date goes on to its own comma, with the thread name in front.
    have cut : (inner ++ record.behind).dropWhile isBlank =
        inner.dropWhile isBlank ++ ']' :: ' ' :: record.time.layoutChars ++
          ',' :: (record.fraction ++ ' ' :: record.tail) := by
      rw [behind, dropWhile_append_cons (by decide)]
      simp
    have plain : ',' ∉ inner.dropWhile isBlank ++
        ']' :: ' ' :: record.time.layoutChars := by
      have early : ',' ∉ inner.dropWhile isBlank :=
        fun again => comma ((List.dropWhile_suffix _).subset again)
      simp [early, record.time.comma_not_mem_layoutChars]
    have foreign : layoutFormat.parse? (trim (inner.dropWhile isBlank ++
        ']' :: ' ' :: record.time.layoutChars)) = none :=
      parse?_bracket (mem_trim (by decide) (by simp))
    rw [record.ofText_bracket thread unclosed plain
      (fun c digit => isDigit_of_asciiDigit (record.fraction_digits c digit))
      (by simp; rfl) cut, Entry.ofFields, foreign]
    split
    · exact record.entry_ne_invalid.symm
    · exact record.entry_ne_invalid.symm

/-- Without a closing bracket in its thread name, a record is read as by any
other layout of fields. -/
theorem ofText_pieces_of_unclosed (record : StockText)
    (unclosed : ']' ∉ record.thread) :
    Entry.ofText stockLayout.grammar record.render = record.entry := by
  let other : LayoutRecord := {
    level := record.level.name.toList
    thread := record.thread
    time := record.time
    fraction := record.fraction
    tail := record.tail
    level_nonempty := record.level.name_ne_nil
    level_word := record.level.name_isWord
    thread_unclosed := unclosed
    modern := record.modern
    fraction_digits := record.fraction_digits }
  have text : other.render stockLayout = record.render := by
    simp [other, LayoutRecord.render, LayoutRecord.renderFrom, stockLayout,
      LayoutRecord.rendered, LayoutRecord.padding, render, padding, behind,
      String.length_toList]
  have read : other.entry = record.entry := by
    simp [other, LayoutRecord.entry, entry]
  rw [← text, other.ofText_render, read]

/-- The stock layout gives back the entry of each of its records.  With a marker
in front it does so exactly if the thread name has no closing bracket. -/
theorem ofText_marker_eq_iff (record : StockText) :
    Entry.ofText (compile stock) record.render =
        { level := record.level.name
          message := some (String.ofList (trim record.tail))
          timestamp := String.ofList record.time.fourteenDigits } ∧
      (Entry.ofText (compile ("%marker" ++ stock)) record.render =
          Entry.ofText (compile stock) record.render ↔
        ']' ∉ record.thread) := by
  have grammar : compile stock = stockGrammar := by simp [compile]
  rw [compile_marker_stock, grammar, record.ofText_stockGrammar]
  refine ⟨rfl, ?_⟩
  constructor
  · intro same inside
    exact record.ofText_pieces_ne_entry inside same
  · exact record.ofText_pieces_of_unclosed

/-- One closing bracket at the end of a name has no blank behind it. -/
theorem isClosedName_concat {name : List Char} (unclosed : ']' ∉ name) :
    IsClosedName (name ++ [']']) := by
  intro c blank inside
  rcases List.infix_concat_iff.mp inside with last | before
  · have same : c = ']' := by
      simpa using last.getLast (by simp)
    rw [same] at blank
    exact absurd blank (by decide)
  · exact unclosed (before.subset List.mem_cons_self)

/-- A record whose thread is named after an address in brackets. -/
def renewClean : StockText where
  level := .error
  thread := "RMI RenewClean-[127.0.0.1:42887]".toList
  time := ⟨⟨2019, 10, 26, by decide⟩, 0, 54, 13, by decide⟩
  fraction := "793".toList
  tail := "CassandraDaemon.java:229 - Exception in thread\n".toList
  thread_oneLine := by decide
  thread_closed := isClosedName_concat
    (show ']' ∉ "RMI RenewClean-[127.0.0.1:42887".toList by decide)
  modern := by decide
  fraction_digits := by decide

theorem ofText_marker_renewClean :
    renewClean.render =
        ("ERROR [RMI RenewClean-[127.0.0.1:42887]] 2019-10-26 00:54:13,793 " ++
          "CassandraDaemon.java:229 - Exception in thread\n").toList ∧
      Entry.ofText (compile stock) renewClean.render =
        { level := "ERROR"
          message := some "CassandraDaemon.java:229 - Exception in thread"
          timestamp := "20191026005413" } ∧
      Entry.ofText (compile ("%marker" ++ stock)) renewClean.render =
        Entry.invalid := by
  have grammar : compile stock = stockGrammar := by simp [compile]
  rw [compile_marker_stock, grammar, renewClean.ofText_stockGrammar]
  exact ⟨by decide, rfl, by decide⟩

end StockText

end ClusterLog
