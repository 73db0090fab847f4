/-!
# Finding text in text

Literal beginnings and first occurrences.
-/

namespace ClusterLog.Text

/-- The text after a literal beginning. -/
def dropLiteral? : List Char → List Char → Option (List Char)
  | [], text => some text
  | _ :: _, [] => none
  | c :: literal, d :: text => if c == d then dropLiteral? literal text else none

/-- Where a reader first succeeds: the text before the place, what the reader returns there, and so
on through all places from left to right.  The reader also sees the text before the place, last
character first. -/
def findReading? {α : Type} (read : List Char → List Char → Option α) :
    List Char → List Char → Option α
  | before, [] => read before []
  | before, c :: rest =>
    match read before (c :: rest) with
    | some found => some found
    | none => findReading? read (c :: before) rest

/-- The first place at which a reader succeeds, and what it returns. -/
def firstReading? {α : Type} (read : List Char → List Char → Option α) (text : List Char) :
    Option α :=
  findReading? read [] text

/-- Whether a text occurs in another one. -/
def occursIn (part text : List Char) : Bool :=
  (firstReading? (fun _ rest => dropLiteral? part rest) text).isSome

/-- A run of one or more characters of a class, and the text after it. -/
def readRun? (member : Char → Bool) (text : List Char) : Option (List Char × List Char) :=
  match text.span member with
  | ([], _) => none
  | (run, rest) => some (run, rest)

/-- The text between two separators, cut at every one. -/
def splitAt (separator : Char) : List Char → List (List Char)
  | [] => [[]]
  | c :: rest =>
    if c == separator then
      [] :: splitAt separator rest
    else
      match splitAt separator rest with
      | [] => [[c]]
      | part :: parts => (c :: part) :: parts

end ClusterLog.Text
