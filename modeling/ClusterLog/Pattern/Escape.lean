/-!
# Written literals

In the text of a pattern most characters stand for themselves.  The characters that mean something
else there, and the ASCII blanks, are written after a backslash.
-/

namespace ClusterLog.Pattern

/-- The characters that are written after a backslash. -/
def escapedChars : List Char :=
  "()[]\x7b\x7d?*+-|^$\\.&~# \t\n\r\x0b\x0c".toList

/-- A literal character in the text of a pattern. -/
def escapeChar (c : Char) : List Char :=
  if escapedChars.contains c then ['\\', c] else [c]

/-- A literal text in the text of a pattern. -/
def escape (text : List Char) : List Char :=
  text.flatMap escapeChar

end ClusterLog.Pattern
