import ClusterLog.Entry.Reading
import ClusterLog.Proofs.Calendar.Written
import ClusterLog.Proofs.Layout.StockGrammar
import ClusterLog.Proofs.Severity
import ClusterLog.Proofs.Text.Lines
import ClusterLog.Proofs.Text.Trim

/-!
# Texts of the stock layout

A record as the stock layout writes it, with any text in place of its message,
is read as its entry.  The thread name may hold closing brackets, as long as
none of them has a blank behind it.
-/

namespace ClusterLog

open Text Calendar Layout

/-- A record of the stock layout, with any text in place of the message. -/
structure StockText where
  level : Severity
  thread : List Char
  time : DateTime
  /-- The digits behind the comma of the date. -/
  fraction : List Char
  /-- The text in place of the message. -/
  tail : List Char
  thread_oneLine : IsOneLine thread
  thread_closed : IsClosedName thread
  modern : 1000 ≤ time.date.year
  fraction_digits : ∀ c ∈ fraction, isAsciiDigit c = true

namespace StockText

/-- The spaces behind a level: those that fill it up to five characters, and one
more. -/
def padding (level : Severity) : List Char :=
  List.replicate (5 - level.name.length) ' ' ++ [' ']

/-- What stands behind the thread name. -/
def behind (record : StockText) : List Char :=
  ']' :: ' ' :: (record.time.layoutChars ++ ',' ::
    (record.fraction ++ ' ' :: record.tail))

/-- A record as the stock layout writes it. -/
def render (record : StockText) : List Char :=
  record.level.name.toList ++
    (padding record.level ++ '[' :: (record.thread ++ record.behind))

/-- The entry of a record. -/
def entry (record : StockText) : Entry where
  level := record.level.name
  message := some (String.ofList (trim record.tail))
  timestamp := String.ofList record.time.fourteenDigits

theorem padding_blank (level : Severity) :
    ∀ c ∈ padding level, isBlank c = true := by
  cases level <;> decide

theorem padding_head (level : Severity) : (padding level).head? = some ' ' := by
  cases level <;> rfl

theorem isBlankText_render (record : StockText) :
    isBlankText record.render = false := by
  have bracket : '[' ∈ record.render := by simp [render]
  rw [isBlankText, List.all_eq_false]
  exact ⟨'[', bracket, by decide⟩

/-- The grammar of the stock layout gives back the level, the time and the
message. -/
theorem ofText_stockGrammar (record : StockText) :
    Entry.ofText stockGrammar record.render = record.entry := by
  have found : stockGrammar.pattern.matchWhole? record.render =
      some [(3, ' ' :: record.tail), (2, record.time.layoutChars),
        (1, record.level.name.toList)] :=
    matchWhole?_stockGrammar record.level.name_isAsciiLetter
      record.level.name_ne_nil (padding_blank record.level)
      (padding_head record.level) record.thread_closed
      record.time.comma_not_mem_layoutChars record.fraction_digits
      (by simp; rfl)
  have level : stockGrammar.position? .level = some 1 := rfl
  have date : stockGrammar.position? .timestamp = some 2 := rfl
  have message : stockGrammar.position? .message = some 3 := rfl
  have blank : isBlank ' ' = true := rfl
  rw [Entry.ofText, isBlankText_render, if_neg (by simp), Entry.ofLayout?,
    found]
  simp [Entry.capturedField, level, date, message, List.lookup_cons,
    DateTime.trim_layoutChars, DateTime.layoutChars_ne_nil,
    record.level.name_ne_empty, trim_cons blank, Entry.ofFields,
    DateTime.parse?_layoutChars record.time, entry, DateTime.stamp,
    DateTime.stampChars_eq_fourteenDigits record.modern]

end StockText

end ClusterLog
