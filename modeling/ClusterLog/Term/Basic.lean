import ClusterLog.Term.FoldTable
import ClusterLog.Term.SeparatorTable
import ClusterLog.Text.Class
import ClusterLog.Text.Utf8

/-!
# Terms

A text is searched by its terms: the runs of letters, digits and private-use characters in it, in
lower case and without simple diacritics.  Everything else separates terms.
-/

namespace ClusterLog

open Text

/-- A term, as the bytes that the index keeps of it. -/
abbrev Term := List UInt8

namespace Term

/-- The longest term in bytes; longer ones are cut. -/
def maxBytes : Nat := 32768

/-- Whether a character begins a term or goes on with it. -/
def isTermChar (c : Char) : Bool :=
  let code := c.toNat
  if code < 128 then isAsciiLetter c || isAsciiDigit c else !inRanges separatorRanges code

/-- Whether a character is a mark on the letter before it. -/
def isCombining (c : Char) : Bool :=
  let code := c.toNat
  128 ≤ code && inRanges combiningRanges code

/-- A character without case and without a simple diacritic; a combining mark leaves nothing. -/
def fold (c : Char) : List Char :=
  let code := c.toNat
  if code < 128 then
    [c.toLower]
  else if isCombining c then
    []
  else
    let lower := Text.CaseRun.image foldRuns code
    match accentRanges.find? fun range => range.1 ≤ lower && lower ≤ range.2.1 with
    | some range => [range.2.2]
    | none => [Char.ofNat lower]

/-- The term with given folded characters. -/
def ofChars (characters : List Char) : Term :=
  (encodeUtf8 characters).take maxBytes

/-- The terms of a text, going on with the folded characters of a begun one, the latest first. -/
def termsFrom : Option (List Char) → List Char → List Term
  | none, [] => []
  | some begun, [] => [ofChars begun.reverse]
  | none, c :: rest =>
    if isTermChar c then termsFrom (some (fold c).reverse) rest else termsFrom none rest
  | some begun, c :: rest =>
    if isTermChar c || isCombining c then termsFrom (some ((fold c).reverse ++ begun)) rest
    else ofChars begun.reverse :: termsFrom none rest

/-- The terms of a text in order. -/
def terms (text : List Char) : List Term :=
  termsFrom none text

end Term

end ClusterLog
