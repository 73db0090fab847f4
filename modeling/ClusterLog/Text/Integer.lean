import ClusterLog.Text.Class

/-!
# Written integers

An integer is written as decimal digits of any script, with blanks around it, a sign in front, and
single underscores between digits.  More than `maxDigits` digits are refused.
-/

namespace ClusterLog.Text

/-- The longest run of digits that is still read as a number. -/
def maxDigits : Nat := 4300

/-- The blanks that may surround a written integer: the ASCII separator controls are not among
them. -/
def isIntegerBlank (c : Char) : Bool :=
  isBlank c && !(28 ≤ c.toNat && c.toNat ≤ 31)

/-- The value of a run of digits, most significant first. -/
def digitsValue (digits : List Nat) : Nat :=
  digits.foldl (fun value digit => value * 10 + digit) 0

/-- The digits of a written number, in which an underscore may stand between two digits.
`afterDigit` says that the character before is a digit. -/
def readDigits? (afterDigit : Bool) : List Char → Option (List Nat)
  | [] => if afterDigit then some [] else none
  | '_' :: rest => if afterDigit then readDigits? false rest else none
  | c :: rest => do
    let digit ← digitValue? c
    let digits ← readDigits? true rest
    return digit :: digits

/-- A number without sign, blanks or limit on its length is refused beyond `maxDigits` digits. -/
def readNatural? (text : List Char) : Option Nat := do
  let digits ← readDigits? false text
  if digits.length ≤ maxDigits then some (digitsValue digits) else none

/-- Read a written integer. -/
def readInteger? (text : List Char) : Option Int :=
  let body := ((text.dropWhile isIntegerBlank).reverse.dropWhile isIntegerBlank).reverse
  match body with
  | '-' :: rest => (readNatural? rest).map fun value => -(value : Int)
  | '+' :: rest => (readNatural? rest).map fun value => (value : Int)
  | rest => (readNatural? rest).map fun value => (value : Int)

/-- The decimal digits of a number. -/
def decimal (value : Nat) : List Char :=
  Nat.toDigits 10 value

/-- The decimal digits of a number, filled with zeros in front up to a width. -/
def paddedDecimal (width value : Nat) : List Char :=
  let digits := decimal value
  List.replicate (width - digits.length) '0' ++ digits

/-- An integer as text. -/
def integerText (value : Int) : String :=
  match value with
  | .ofNat n => String.ofList (decimal n)
  | .negSucc n => String.ofList ('-' :: decimal (n + 1))

end ClusterLog.Text
