import ClusterLog.Text.Class

/-!
# Quoted texts

A text that is cited in an error message is put between single quotes, or between double quotes if
it holds a single quote and no double quote.  The quote, the backslash and unprintable characters
are escaped.
-/

namespace ClusterLog.Text

/-- One hexadecimal digit. -/
def hexDigit (value : Nat) : Char :=
  (("0123456789abcdef".toList)[value % 16]?).getD '0'

/-- The last `width` hexadecimal digits of a number. -/
def hexDigits : Nat → Nat → List Char
  | 0, _ => []
  | width + 1, value => hexDigits width (value / 16) ++ [hexDigit value]

/-- How a quoted text shows one character. -/
def quotedChar (quote : Char) (c : Char) : List Char :=
  let code := c.toNat
  if c == quote || c == '\\' then ['\\', c]
  else if c == '\n' then ['\\', 'n']
  else if c == '\r' then ['\\', 'r']
  else if c == '\t' then ['\\', 't']
  else if isPrintable c then [c]
  else if code < 0x100 then ['\\', 'x'] ++ hexDigits 2 code
  else if code < 0x10000 then ['\\', 'u'] ++ hexDigits 4 code
  else ['\\', 'U'] ++ hexDigits 8 code

/-- A text in quotes. -/
def quoted (text : String) : String :=
  let chars := text.toList
  let quote := if chars.contains '\'' && !chars.contains '"' then '"' else '\''
  String.ofList (quote :: chars.flatMap (quotedChar quote) ++ [quote])

end ClusterLog.Text
