import ClusterLog.Text.Case
import ClusterLog.Text.Trim
import ClusterLog.Text.Find

/-!
# Severities

The six severities of a log record, from the most verbose to the most severe, their names, and the
first and last place where a text holds one of these names.
-/

namespace ClusterLog

open Text

/-- How severe a log record is. -/
inductive Severity where
  | trace
  | debug
  | info
  | warn
  | error
  | fatal
deriving DecidableEq

namespace Severity

/-- All severities, from the most verbose to the most severe. -/
def all : List Severity := [.trace, .debug, .info, .warn, .error, .fatal]

/-- The place of a severity among all of them. -/
def rank : Severity → Nat
  | .trace => 0
  | .debug => 1
  | .info => 2
  | .warn => 3
  | .error => 4
  | .fatal => 5

/-- The name of a severity, as log records write it. -/
def name : Severity → String
  | .trace => "TRACE"
  | .debug => "DEBUG"
  | .info => "INFO"
  | .warn => "WARN"
  | .error => "ERROR"
  | .fatal => "FATAL"

instance : LT Severity := ⟨fun first second => first.rank < second.rank⟩

instance : LE Severity := ⟨fun first second => first.rank ≤ second.rank⟩

instance (first second : Severity) : Decidable (first < second) :=
  inferInstanceAs (Decidable (first.rank < second.rank))

instance (first second : Severity) : Decidable (first ≤ second) :=
  inferInstanceAs (Decidable (first.rank ≤ second.rank))

/-- The more severe of two severities. -/
def stricter (first second : Severity) : Severity :=
  if first < second then second else first

/-- The severity with a name. -/
def ofName? (text : List Char) : Option Severity :=
  all.find? (·.name.toList == text)

/-- The severity that a setting names, in any case and with blanks around it. -/
def ofText? (text : String) : Option Severity :=
  ofName? (upper (trim text.toList))

/-- The severity that a setting names, or a default for a missing or unknown name. -/
def parse (value : Option String) (default : Option Severity) : Option Severity :=
  (value.bind ofText?).or default

/-- The severity whose name a text begins with, and the text after the name. -/
def keywordAt? (text : List Char) : Option (Severity × List Char) :=
  all.findSome? fun severity =>
    (dropLiteral? severity.name.toList text).map fun rest => (severity, rest)

/-- The leftmost severity name of a text: the text before it, the severity and the text after
it. -/
def firstKeyword? : List Char → Option (List Char × Severity × List Char)
  | [] => none
  | c :: text =>
    match keywordAt? (c :: text) with
    | some (severity, rest) => some ([], severity, rest)
    | none => (firstKeyword? text).map fun (before, severity, rest) => (c :: before, severity, rest)

/-- The severity name of a text that starts furthest to the right. -/
def lastKeyword? : List Char → Option (List Char × Severity × List Char)
  | [] => none
  | c :: text =>
    match lastKeyword? text with
    | some (before, severity, rest) => some (c :: before, severity, rest)
    | none => (keywordAt? (c :: text)).map fun (severity, rest) => ([], severity, rest)

end Severity

end ClusterLog
