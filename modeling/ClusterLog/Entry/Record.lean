import ClusterLog.Entry.Reading

/-!
# Records of several lines

A record may go on over several physical lines; only its first one holds a severity name.  Lines
without one join the record before them.  `Accumulator` collects the lines of the current record,
`recordTexts` cuts a list of lines into the texts of its records at once.
-/

namespace ClusterLog

open Text

/-- Whether a line begins a record: it holds a severity name before any line feed in it. -/
def startsRecord (line : List Char) : Bool :=
  (Severity.firstKeyword? (line.takeWhile (· != '\n'))).isSome

/-- A physical line without the line end characters at its end. -/
def withoutLineEnd (line : List Char) : List Char :=
  dropEndWhile (fun c => c == '\r' || c == '\n') line

/-- The lines of the current record, the latest first. -/
structure Accumulator where
  pending : List (List Char) := []
deriving DecidableEq

namespace Accumulator

/-- The text of the current record, each line with a line feed. -/
def text (accumulator : Accumulator) : List Char :=
  accumulator.pending.reverse.flatMap fun line => line ++ ['\n']

/-- Add a physical line.  A line that begins a record completes the one before it, whose text is
returned. -/
def feed (accumulator : Accumulator) (physical : List Char) :
    Option (List Char) × Accumulator :=
  let line := withoutLineEnd physical
  if startsRecord line && !accumulator.pending.isEmpty then
    (some accumulator.text, ⟨[line]⟩)
  else
    (none, ⟨line :: accumulator.pending⟩)

/-- Complete the current record, if there is one. -/
def flush (accumulator : Accumulator) : Option (List Char) × Accumulator :=
  if accumulator.pending.isEmpty then (none, accumulator)
  else (some accumulator.text, ⟨[]⟩)

/-- Add lines and complete the last record; the texts of the records in order. -/
def run (accumulator : Accumulator) : List (List Char) → List (List Char)
  | [] => accumulator.flush.1.toList
  | line :: lines =>
    let (done, next) := accumulator.feed line
    done.toList ++ next.run lines

end Accumulator

/-- The texts of the records in a list of physical lines. -/
def recordTexts (lines : List (List Char)) : List (List Char) :=
  Accumulator.run {} lines

/-- The entries of the records in a list of physical lines. -/
def entriesOfLines (grammar : Layout.Grammar) (lines : List (List Char)) : List Entry :=
  (recordTexts lines).map (Entry.ofText grammar)

end ClusterLog
