import ClusterLog.Entry.Basic
import ClusterLog.Failure
import ClusterLog.Text.Find
import ClusterLog.Text.Integer

/-!
# Reading diagnostic messages

The small readers that the diagnostic messages are built from: numbers between literal texts, and
the date and host of the entry that holds the message.
-/

namespace ClusterLog.Diagnostics

open Text Calendar

/-- The value of a run of digits. -/
def number (digits : List Char) : Except Failure Int :=
  match readNatural? digits with
  | some value => .ok value
  | none => .error (.numberTooLong digits.length)

/-- The first run of digits of a class with a literal text on each side. -/
def digitsBetween? (before after : List Char) (member : Char → Bool) (text : List Char) :
    Option (List Char) :=
  firstReading? (fun _ rest => do
    let rest ← dropLiteral? before rest
    let (digits, rest) ← readRun? member rest
    let _ ← dropLiteral? after rest
    return digits) text

/-- The date of an entry. -/
def dateOf (entry : Entry) : Except Failure DateTime :=
  match entry.date? with
  | some date => .ok date
  | none => .error (.unreadableDate entry.timestamp)

/-- The host of an entry; a missing or empty host is an unknown node. -/
def hostOf (entry : Entry) : String :=
  let host := entry.host.getD ""
  if host.isEmpty then "unknown node" else host

end ClusterLog.Diagnostics
