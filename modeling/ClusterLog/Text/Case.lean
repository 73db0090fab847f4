import ClusterLog.Text.Class
import ClusterLog.Text.UpperTable

/-!
# Upper case

The full upper-case mapping: a character becomes one or several characters.
-/

namespace ClusterLog.Text

/-- The upper case of one character. -/
def upperChar (c : Char) : List Char :=
  let code := c.toNat
  if code < 128 then
    [c.toUpper]
  else
    match upperExpansions.lookup code with
    | some codes => codes.map Char.ofNat
    | none => [Char.ofNat (CaseRun.image upperRuns code)]

/-- The upper case of a text. -/
def upper (text : List Char) : List Char :=
  text.flatMap upperChar

end ClusterLog.Text
