import ClusterLog.Text.DigitTable
import ClusterLog.Text.UnprintableTable
import ClusterLog.Text.WordTable

/-!
# Character classes

Blanks, decimal digits, word characters and printable characters over all of Unicode.  Each class
is decided directly on ASCII and by a table beyond it, so a proof about ASCII text never meets a
table.
-/

namespace ClusterLog.Text

/-- Whether one of the inclusive ranges holds the code point. -/
def inRanges (ranges : List (Nat × Nat)) (code : Nat) : Bool :=
  ranges.any fun range => range.1 ≤ code && code ≤ range.2

/-- The blanks beyond ASCII. -/
def blankRanges : List (Nat × Nat) := [
  (0x85, 0x85), (0xA0, 0xA0), (0x1680, 0x1680), (0x2000, 0x200A), (0x2028, 0x2029),
  (0x202F, 0x202F), (0x205F, 0x205F), (0x3000, 0x3000)]

/-- White space, the line and paragraph separators, and the ASCII controls from tab to carriage
return and from file separator to unit separator. -/
def isBlank (c : Char) : Bool :=
  let code := c.toNat
  if code < 128 then
    code == 32 || (9 ≤ code && code ≤ 13) || (28 ≤ code && code ≤ 31)
  else
    inRanges blankRanges code

theorem isBlank_of_code {c : Char} (lower : 48 ≤ c.toNat) (upper : c.toNat ≤ 122) :
    isBlank c = false := by
  have ascii : c.toNat < 128 := by omega
  simp only [isBlank, ascii, ↓reduceIte, Bool.or_eq_false_iff, Bool.and_eq_false_iff,
    beq_eq_false_iff_ne, decide_eq_false_iff_not]
  omega

/-- The value of a decimal digit of any script. -/
def digitValue? (c : Char) : Option Nat :=
  let code := c.toNat
  if code < 128 then
    if 48 ≤ code && code ≤ 57 then some (code - 48) else none
  else
    (digitZeros.find? fun first => first ≤ code && code < first + 10).map (code - ·)

/-- Decimal digits of any script. -/
def isDigit (c : Char) : Bool :=
  (digitValue? c).isSome

/-- The digits `0` to `9`. -/
def isAsciiDigit (c : Char) : Bool :=
  '0' ≤ c && c ≤ '9'

theorem toNat_of_asciiDigit {c : Char} (digit : isAsciiDigit c = true) :
    48 ≤ c.toNat ∧ c.toNat ≤ 57 := by
  simpa [isAsciiDigit, Char.le_def, UInt32.le_iff_toNat_le] using digit

/-- The letters `A` to `Z`. -/
def isAsciiUpper (c : Char) : Bool :=
  'A' ≤ c && c ≤ 'Z'

/-- The letters `A` to `Z` and `a` to `z`. -/
def isAsciiLetter (c : Char) : Bool :=
  isAsciiUpper c || ('a' ≤ c && c ≤ 'z')

theorem toNat_of_asciiLetter {c : Char} (letter : isAsciiLetter c = true) :
    65 ≤ c.toNat ∧ c.toNat ≤ 122 := by
  simp only [isAsciiLetter, isAsciiUpper, Bool.or_eq_true, Bool.and_eq_true, decide_eq_true_eq,
    Char.le_def, UInt32.le_iff_toNat_le] at letter
  have upperFirst : ('A').val.toNat = 65 := rfl
  have upperLast : ('Z').val.toNat = 90 := rfl
  have lowerFirst : ('a').val.toNat = 97 := rfl
  have lowerLast : ('z').val.toNat = 122 := rfl
  change 65 ≤ c.val.toNat ∧ c.val.toNat ≤ 122
  omega

/-- Letters, characters with a numeric value, and the underscore. -/
def isWord (c : Char) : Bool :=
  let code := c.toNat
  if code < 128 then
    isAsciiLetter c || isAsciiDigit c || c == '_'
  else
    inRanges wordRanges code

/-- Characters that are shown as they are when a text is quoted. -/
def isPrintable (c : Char) : Bool :=
  let code := c.toNat
  if code < 128 then
    32 ≤ code && code ≤ 126
  else
    !inRanges unprintableRanges code

end ClusterLog.Text
