import ClusterLog.Entry.Basic
import ClusterLog.Layout.Grammar
import ClusterLog.Severity

/-!
# Reading entries

The text of one record is read with the grammar of the node's layout, and where that does not
recognise it, by the severity keyword in it.  Text that neither recognises is an invalid entry, and
so is recognised text whose fields are no proper fields.
-/

namespace ClusterLog.Entry

open Text Calendar

/-- The entry of a level, a date and a message, or the invalid entry if the date cannot be read. -/
def ofFields (format : Format) (level date message : List Char) : Entry :=
  match format.parse? date with
  | some time => {
      level := String.ofList level
      message := some (String.ofList message)
      timestamp := time.stamp }
  | none => invalid

/-- The trimmed text of a field in a match; a field without a place is empty. -/
def capturedField (grammar : Layout.Grammar) (captures : Captures) (field : Layout.Field) :
    List Char :=
  match grammar.position? field with
  | some ordinal => trim ((captures.lookup ordinal).getD [])
  | none => []

/-- Read a record written with a layout; `none` says that the layout does not recognise it. -/
def ofLayout? (grammar : Layout.Grammar) (text : List Char) : Option Entry :=
  (grammar.pattern.matchWhole? text).map fun captures =>
    let level := capturedField grammar captures .level
    let date := capturedField grammar captures .timestamp
    if level.isEmpty || date.isEmpty then
      invalid
    else
      ofFields layoutFormat level date (capturedField grammar captures .message)

/-- Cut a text at a severity name: the leftmost one after the text before the first comma, or else
the last one that starts before the comma. -/
def cutAtKeyword? (text : List Char) : Option (List Char × Severity × List Char) :=
  let (head, rest) := text.span (· != ',')
  match Severity.firstKeyword? rest with
  | some (_, severity, message) => some (head, severity, message)
  | none =>
    (Severity.lastKeyword? head).map fun (date, severity, message) =>
      (date, severity, message ++ rest)

/-- Read a record by its severity keyword: what comes before the first comma or the keyword is the
date, what comes after the keyword the message.  `none` says that the text has no keyword. -/
def ofKeyword? (text : List Char) : Option Entry :=
  (cutAtKeyword? text).map fun (date, severity, message) =>
    if (trim date).isEmpty then
      invalid
    else
      ofFields keywordFormat severity.name.toList (trim date) (trim message)

/-- How a text is read: `none` where it is not recognised, an error where reading breaks down. -/
abbrev Reader (ε : Type) := List Char → Except ε (Option Entry)

/-- Try readers in order.  Blank text, text that none recognises and text at which a reader breaks
down are invalid entries. -/
def ofReaders {ε : Type} (readers : List (Reader ε)) (text : List Char) : Entry :=
  if isBlankText text then invalid
  else attempt readers
where
  attempt : List (Reader ε) → Entry
    | [] => invalid
    | reader :: others =>
      match reader text with
      | .ok (some entry) => entry
      | .ok none => attempt others
      | .error _ => invalid

/-- Read a record with a layout, else by its keyword. -/
def ofText (grammar : Layout.Grammar) (text : List Char) : Entry :=
  if isBlankText text then invalid
  else ((ofLayout? grammar text).or (ofKeyword? text)).getD invalid

end ClusterLog.Entry
