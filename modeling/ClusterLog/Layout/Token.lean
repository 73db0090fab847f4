import ClusterLog.Layout.Piece
import ClusterLog.Text.Find

/-!
# Layout tokens

A layout description is read from left to right.  At each place the placeholders that are known as a
whole are tried first, longer ones before their beginnings, then any other conversion, and else one
character is read.
-/

namespace ClusterLog.Layout

open Text

/-- What is read at one place of a layout description. -/
inductive Token where
  | field (field : Field)
  | thread
  /-- A conversion that prints nothing. -/
  | nothing
  /-- A conversion without meaning here. -/
  | other
  | space
  | literal (c : Char)
deriving DecidableEq

/-- The placeholders that are known as a whole, in the order in which they are tried. -/
def placeholders : List (String × Token) := [
  ("%F:%L - %msg%n", .field .message),
  ("%F:%L %M %msg%n", .field .message),
  ("%date\x7bISO8601\x7d", .field .timestamp),
  ("%d\x7bISO8601\x7d", .field .timestamp),
  ("%X\x7bservice\x7d", .nothing),
  ("%-5level", .field .level),
  ("%level", .field .level),
  ("[%thread]", .thread),
  ("%marker", .nothing),
  ("%msg%n", .field .message)]

/-- The placeholder at the beginning of a text, and the text after it. -/
def placeholderAt? (text : List Char) : Option (Token × List Char) :=
  placeholders.findSome? fun (written, token) =>
    (dropLiteral? written.toList text).map fun rest => (token, rest)

/-- The text after an option in braces, if one is closed there. -/
def dropOption (text : List Char) : List Char :=
  match text with
  | '{' :: rest =>
    match rest.dropWhile (· != '}') with
    | _ :: after => after
    | [] => text
  | _ => text

/-- The text after a precision, a point and digits, if there is one. -/
def dropPrecision (text : List Char) : List Char :=
  match text with
  | '.' :: rest =>
    match readRun? isDigit rest with
    | some (_, after) => after
    | none => text
  | _ => text

/-- Any conversion at the beginning of a text, and the text after it: a percent sign, a minus, a
width, a precision, a word of ASCII letters and an option in braces.  The bare line end prints
nothing. -/
def conversionAt? (text : List Char) : Option (Token × List Char) :=
  match text with
  | '%' :: rest => do
    let afterSign := match rest with
      | '-' :: after => after
      | after => after
    let (word, afterWord) ← readRun? isAsciiLetter (dropPrecision (afterSign.dropWhile isDigit))
    let after := dropOption afterWord
    let token := if rest.take (rest.length - after.length) == ['n'] then .nothing else .other
    if word.isEmpty then none else some (token, after)
  | _ => none

/-- What one character is read as. -/
def Token.ofChar (c : Char) : Token :=
  if c == ' ' then .space else .literal c

/-- The token at the beginning of a text that starts with `c`, and the text after it. -/
def tokenAt (c : Char) (text : List Char) : Token × List Char :=
  ((placeholderAt? (c :: text)).or (conversionAt? (c :: text))).getD (.ofChar c, text)

/-- The tokens of a layout description.  Every token is at least one character long, so `fuel`, the
length of the description, suffices. -/
def tokensWithin : Nat → List Char → List Token
  | 0, _ => []
  | _, [] => []
  | fuel + 1, c :: text =>
    let (token, rest) := tokenAt c text
    token :: tokensWithin fuel rest

/-- The tokens of a layout description. -/
def tokens (layout : List Char) : List Token :=
  tokensWithin layout.length layout

end ClusterLog.Layout
