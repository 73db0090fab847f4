import ClusterLog.Xml.Basic
import ClusterLog.Text.Case

/-!
# Pieces of markup

The readers that all markup is made of: blanks, names, quoted literals, comments, processing
instructions and references.  Each returns what it read and the text after it, or `none` where the
text is not well formed.
-/

namespace ClusterLog.Xml

open Text

/-- The text after blanks, if any. -/
def skipSpace (text : List Char) : List Char :=
  text.dropWhile isSpace

/-- The text after at least one blank. -/
def needSpace? (text : List Char) : Option (List Char) :=
  match text with
  | c :: rest => if isSpace c then some (skipSpace rest) else none
  | [] => none

/-- A name without a colon. -/
def readSimpleName? (text : List Char) : Option (List Char × List Char) :=
  match text with
  | c :: rest =>
    if isNameStart c then
      let (tail, after) := rest.span isNameChar
      some (c :: tail, after)
    else
      none
  | [] => none

/-- A name as written: its prefix, which may be empty, and its local part. -/
structure WrittenName where
  qualifier : List Char
  localPart : List Char
deriving DecidableEq

/-- A name with at most one colon inside. -/
def readName? (text : List Char) : Option (WrittenName × List Char) := do
  let (first, rest) ← readSimpleName? text
  match rest with
  | ':' :: rest => do
    let (second, rest) ← readSimpleName? rest
    return (⟨first, second⟩, rest)
  | rest => return (⟨[], first⟩, rest)

/-- The characters up to a terminating text, and the text after it.  All of them have to be
characters of a document. -/
def readUntil? (terminator : List Char) : List Char → Option (List Char × List Char)
  | [] => none
  | c :: text =>
    match dropLiteral? terminator (c :: text) with
    | some rest => some ([], rest)
    | none =>
      if isXmlChar c then
        (readUntil? terminator text).map fun (read, rest) => (c :: read, rest)
      else
        none

/-- A literal in quotes. -/
def readLiteral? (text : List Char) : Option (List Char × List Char) :=
  match text with
  | '"' :: rest => readUntil? ['"'] rest
  | '\'' :: rest => readUntil? ['\''] rest
  | _ => none

/-- The text after a comment whose opening has been read.  Two hyphens end it. -/
def skipComment? (text : List Char) : Option (List Char) := do
  let (_, rest) ← readUntil? ['-', '-'] text
  dropLiteral? ['>'] rest

/-- The text after a processing instruction whose opening has been read.  The target `xml` is
reserved in every case. -/
def skipInstruction? (text : List Char) : Option (List Char) := do
  let (target, rest) ← readSimpleName? text
  if target.map Char.toLower == "xml".toList then
    none
  else
    match dropLiteral? "?>".toList rest with
    | some after => some after
    | none => do
      let rest ← needSpace? rest
      let (_, after) ← readUntil? "?>".toList rest
      return after

/-- The value of a hexadecimal digit. -/
def hexValue? (c : Char) : Option Nat :=
  if isAsciiDigit c then some (c.toNat - 48)
  else if 'a' ≤ c && c ≤ 'f' then some (c.toNat - 87)
  else if 'A' ≤ c && c ≤ 'F' then some (c.toNat - 55)
  else none

/-- The value of digits in a base, most significant first. -/
def digitsIn? (base : Nat) (digits : List Char) : Option Nat :=
  digits.foldlM (fun value c => do
    let digit ← hexValue? c
    if digit < base then some (value * base + digit) else none) 0

/-- A reference: to a character or to an entity. -/
inductive Reference where
  | char (c : Char)
  | entity (name : List Char)

/-- The character with a number, if a document may hold it. -/
def charOfNumber? (number : Nat) : Option Char :=
  if number.isValidChar && isXmlChar (Char.ofNat number) then some (Char.ofNat number) else none

/-- A reference after its ampersand, up to its semicolon. -/
def readReference? (text : List Char) : Option (Reference × List Char) :=
  match text with
  | '#' :: rest =>
    let (base, rest) := match rest with
      | 'x' :: rest => (16, rest)
      | rest => (10, rest)
    match rest.span (fun c => (hexValue? c).isSome) with
    | ([], _) => none
    | (digits, ';' :: after) => do
      let c ← charOfNumber? (← digitsIn? base digits)
      return (.char c, after)
    | _ => none
  | text => do
    let (name, rest) ← readSimpleName? text
    match rest with
    | ';' :: after => return (.entity name, after)
    | _ => none

/-- The characters that every document can refer to by name. -/
def predefined? (name : List Char) : Option Char :=
  [("lt", '<'), ("gt", '>'), ("amp", '&'), ("quot", '"'), ("apos", '\'')].findSome?
    fun (known, c) => if known.toList == name then some c else none

end ClusterLog.Xml
