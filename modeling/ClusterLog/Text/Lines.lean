/-!
# Lines

Two ways to cut a text into lines.  A file that is read line by line knows three line ends (line
feed, carriage return, and the two together), and each line is handed on with a line feed at its
end.  A text that is cut at every line boundary knows more of them, and drops the boundaries.
-/

namespace ClusterLog.Text

/-- Write every line end of a file as a single line feed. -/
def unifyLineEnds : List Char → List Char
  | [] => []
  | '\r' :: '\n' :: rest => '\n' :: unifyLineEnds rest
  | '\r' :: rest => '\n' :: unifyLineEnds rest
  | c :: rest => c :: unifyLineEnds rest

/-- Cut after every line feed.  The last line has none if the text does not end in one. -/
def cutAfterLineFeeds : List Char → List (List Char)
  | [] => []
  | '\n' :: rest => ['\n'] :: cutAfterLineFeeds rest
  | c :: rest =>
    match cutAfterLineFeeds rest with
    | [] => [[c]]
    | line :: lines => (c :: line) :: lines

/-- The lines of a file, each with its line feed. -/
def fileLines (text : List Char) : List (List Char) :=
  cutAfterLineFeeds (unifyLineEnds text)

/-- The characters that end a line on their own; a carriage return and a line feed end it
together. -/
def isLineBoundary (c : Char) : Bool :=
  let code := c.toNat
  (10 ≤ code && code ≤ 13) || (28 ≤ code && code ≤ 30) || code == 0x85 ||
    code == 0x2028 || code == 0x2029

/-- The lines of a text, cut at every line boundary and without it. -/
def splitLines : List Char → List (List Char)
  | [] => []
  | '\r' :: '\n' :: rest => [] :: splitLines rest
  | c :: rest =>
    if isLineBoundary c then
      [] :: splitLines rest
    else
      match splitLines rest with
      | [] => [[c]]
      | line :: lines => (c :: line) :: lines

end ClusterLog.Text
