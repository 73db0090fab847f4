import ClusterLog.Text.Find
import ClusterLog.Text.Order

/-!
# Paths

A path is a list of names below a starting point: the root directory, or the directory that relative
paths start from.  Repeated slashes and the name `.` do not count, except that exactly two slashes
at the beginning are kept.
-/

namespace ClusterLog

open Text

/-- Where a path starts. -/
inductive Anchor where
  | current
  | root
  /-- The root, written with two slashes. -/
  | doubleRoot
deriving DecidableEq

/-- A path. -/
structure Path where
  anchor : Anchor
  names : List String
deriving DecidableEq

namespace Path

/-- The anchor of a written path. -/
def anchorOf (text : List Char) : Anchor :=
  match text.takeWhile (· == '/') with
  | [] => .current
  | [_, _] => .doubleRoot
  | _ => .root

/-- Read a written path. -/
def ofText (text : String) : Path where
  anchor := anchorOf text.toList
  names := ((splitAt '/' text.toList).filter fun name => !name.isEmpty && name != ['.']).map
    String.ofList

/-- How an anchor is written. -/
def anchorText : Anchor → String
  | .current => ""
  | .root => "/"
  | .doubleRoot => "//"

/-- How a path is written. -/
def text (path : Path) : String :=
  if path.anchor = .current ∧ path.names = [] then "."
  else anchorText path.anchor ++ "/".intercalate path.names

/-- Whether a path starts at the root. -/
def isAbsolute (path : Path) : Bool :=
  path.anchor != .current

/-- A path that starts where another one ends, unless it starts at the root. -/
def join (base path : Path) : Path :=
  if path.isAbsolute then path else { base with names := base.names ++ path.names }

/-- A path with one more name. -/
def child (path : Path) (name : String) : Path :=
  { path with names := path.names ++ [name] }

/-- A path without its last name. -/
def parent (path : Path) : Path :=
  { path with names := path.names.dropLast }

/-- The last name of a path; a path without names has an empty one. -/
def name (path : Path) : String :=
  path.names.getLast?.getD ""

/-- The end of a name from its last dot on, unless the dot is its first or last character. -/
def suffixOf (name : List Char) : List Char :=
  let ending := (name.reverse.takeWhile (· != '.')).reverse
  if ending.isEmpty || name.length ≤ ending.length + 1 then [] else '.' :: ending

/-- The end of a path's last name from its last dot on. -/
def suffix (path : Path) : List Char :=
  suffixOf path.name.toList

/-- Whether one list of names comes before another one or equals it: the first difference counts. -/
def namesPrecede : List String → List String → Bool
  | [], _ => true
  | _ :: _, [] => false
  | left :: lefts, right :: rights =>
    if left = right then namesPrecede lefts rights
    else Text.precedes left.toList right.toList

/-- Whether a path comes before another one or equals it. -/
def precedes (path other : Path) : Bool :=
  namesPrecede path.names other.names

/-- The names that lead from the root to where a path points.  The name `..` goes back to the
directory before. -/
def collapse (names : List String) : List String :=
  names.foldl (fun before name => if name = ".." then before.dropLast else before ++ [name]) []

/-- The path from the root, without the name `..`; relative paths start from a given directory. -/
def resolve (current : List String) (path : Path) : Path where
  anchor := .root
  names := collapse (if path.isAbsolute then path.names else current ++ path.names)

/-- Whether a path is a directory or lies below it, by their names. -/
def isWithin (path directory : Path) : Bool :=
  directory.names.isPrefixOf path.names

/-- Whether one of the names holds a null character. -/
def hasNull (path : Path) : Bool :=
  path.names.any fun name => name.toList.any fun c => c.toNat == 0

end Path

end ClusterLog
