import ClusterLog.Compression.Gzip
import ClusterLog.Files.Path
import ClusterLog.Index.Store
import ClusterLog.Text.Lines
import ClusterLog.Text.Trim
import ClusterLog.Text.Utf8

/-!
# File trees

The directories and files below the root.  Files are sequences of bytes or indexes.  Files are read
as UTF-8, compressed ones are decompressed first.
-/

namespace ClusterLog

open Text

/-- Names that lead from the root to a file or directory. -/
abbrev Location := List String

/-- What stands at a location. -/
inductive Node where
  | directory
  | file (bytes : List UInt8)
  | index (store : Store)
deriving DecidableEq

/-- Directories and files. -/
structure FileTree where
  /-- The directory that relative paths start from. -/
  current : Location := []
  /-- The files and directories other than the root, each location once. -/
  nodes : List (Location × Node) := []

namespace FileTree

/-- What stands at a location. -/
def at? (tree : FileTree) (location : Location) : Option Node :=
  if location.isEmpty then some .directory else tree.nodes.lookup location

/-- The location that names lead to.  Every name but the last has to lead to a directory. -/
def follow (tree : FileTree) : Location → List String → Option Location
  | location, [] => some location
  | location, name :: names =>
    if tree.at? location = some .directory then
      tree.follow (if name = ".." then location.dropLast else location ++ [name]) names
    else
      none

/-- The location that a path points to, whether something stands there or not. -/
def locate (tree : FileTree) (path : Path) : Option Location :=
  if path.hasNull then none
  else tree.follow (if path.isAbsolute then [] else tree.current) path.names

/-- What a path points to. -/
def find? (tree : FileTree) (path : Path) : Option Node :=
  (tree.locate path).bind tree.at?

/-- Whether a path points to a directory. -/
def isDirectory (tree : FileTree) (path : Path) : Bool :=
  tree.find? path = some .directory

/-- Whether a path points to a file. -/
def isFile (tree : FileTree) (path : Path) : Bool :=
  match tree.find? path with
  | some .directory | none => false
  | some _ => true

/-- Put a node at a location in place of what stands there. -/
def set (tree : FileTree) (location : Location) (node : Node) : FileTree :=
  { tree with nodes := tree.nodes.filter (·.1 != location) ++ [(location, node)] }

/-- Make the directories that names lead to, from a directory on.  Where a file is in the way, there
are none. -/
def makeBelow (tree : FileTree) : Location → List String → Except Failure FileTree
  | _, [] => .ok tree
  | location, name :: names =>
    if name = ".." then
      tree.makeBelow location.dropLast names
    else
      let next := location ++ [name]
      match tree.at? next with
      | some .directory => tree.makeBelow next names
      | none => (tree.set next .directory).makeBelow next names
      | some _ => .error (.notDirectory ("/" ++ "/".intercalate next))

/-- Make a directory and the ones above it. -/
def makeDirectory (tree : FileTree) (path : Path) : Except Failure FileTree :=
  if path.hasNull then .error .pathWithNull
  else tree.makeBelow (if path.isAbsolute then [] else tree.current) path.names

/-- Put a file or a directory where a path points to, and make the directories above it. -/
def put (tree : FileTree) (path : Path) (node : Node) : Except Failure FileTree := do
  if node = .directory then
    tree.makeDirectory path
  else
    let tree ← tree.makeDirectory path.parent
    match tree.locate path with
    | some location => return tree.set location node
    | none => throw (.fileMissing path.text)

/-- Remove what a path points to, and everything below it. -/
def remove (tree : FileTree) (path : Path) : FileTree :=
  match tree.locate path with
  | some location =>
    { tree with nodes := tree.nodes.filter fun (other, _) => !location.isPrefixOf other }
  | none => tree

/-! ## Listing -/

/-- The names that lead from a location to what stands below it. -/
def namesBelow (tree : FileTree) (location : Location) : List (List String) :=
  tree.nodes.filterMap fun (other, _) =>
    if location.isPrefixOf other && other.length != location.length then
      some (other.drop location.length)
    else
      none

/-- The paths of everything below a directory, in the order of paths. -/
def below (tree : FileTree) (directory : Path) : List Path :=
  match tree.locate directory with
  | some location =>
    ((tree.namesBelow location).map fun names =>
      { directory with names := directory.names ++ names }).mergeSort Path.precedes
  | none => []

/-- The paths of the directories right below a directory, in the order of paths. -/
def directoriesIn (tree : FileTree) (directory : Path) : List Path :=
  (tree.below directory).filter fun path =>
    path.names.length == directory.names.length + 1 && tree.isDirectory path

/-! ## Reading -/

/-- The bytes of a file.  An index is not read as bytes. -/
def bytes (tree : FileTree) (path : Path) : Except Failure (List UInt8) :=
  match tree.find? path with
  | some (.file bytes) => .ok bytes
  | some (.index _) => .ok []
  | some .directory => .error (.isDirectory path.text)
  | none => .error (.fileMissing path.text)

/-- Whether the name of a file says that it is compressed. -/
def isCompressed (path : Path) : Bool :=
  path.suffix.map Char.toLower == ".gz".toList

/-- The text of a file as it is. -/
def plainText (tree : FileTree) (path : Path) : Except Failure (List Char) := do
  return decodeUtf8 (← tree.bytes path)

/-- The lines of a file, which is decompressed if its name says that it is compressed. -/
def lines (tree : FileTree) (path : Path) : Except Failure (List (List Char)) := do
  let bytes ← tree.bytes path
  if isCompressed path then
    return fileLines (decodeUtf8 (← Compression.gunzip bytes))
  else
    return fileLines (decodeUtf8 bytes)

end FileTree

end ClusterLog
