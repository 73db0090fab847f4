import ClusterLog.Command.Run
import ClusterLog.Index.Image

/-!
# Command line

The files that a command is about are read into a file tree, the command is run in it, and what has
changed is written back.  Indexes are kept in files as their images.
-/

namespace ClusterLog.CommandLine

open Command Text

/-- The environment variables that the program looks at. -/
def environmentNames : List String :=
  [batchSizeVariable, reportDaysVariable, baseDirectoryVariable]

/-- The paths that a command is about. -/
def pathsOf : Invocation → List Path
  | .ingest settings => [Path.ofText settings.artifacts, Path.ofText settings.index]
  | .search settings => [Path.ofText settings.index]

/-- The locations on the way along a path, where it leads included. -/
def locationsAlong (current : Location) (path : Path) : List Location :=
  (List.range (path.names.length + 1)).map fun count =>
    (Path.resolve current { path with names := path.names.take count }).names

/-- The path of a location as text. -/
def placeText (location : Location) : String :=
  "/" ++ "/".intercalate location

/-- What the bytes of a file are: an index, or bytes. -/
def nodeOfBytes (bytes : List UInt8) : Node :=
  match Store.ofImage? (decodeUtf8 bytes) with
  | some store => .index store
  | none => .file bytes

/-- The bytes that keep a node in a file; a directory has none. -/
def bytesOfNode? : Node → Option (List UInt8)
  | .directory => none
  | .file bytes => some bytes
  | .index store => some (encodeUtf8 store.image)

/-- Read what stands at a location, and everything below a directory. -/
partial def load (tree : FileTree) (location : Location) : IO FileTree := do
  let place := (← IO.currentDir) / placeText location
  if ← place.isDir then
    let mut tree := if location.isEmpty then tree else tree.set location .directory
    for entry in ← place.readDir do
      tree ← load tree (location ++ [entry.fileName])
    return tree
  else if ← place.pathExists then
    return tree.set location (nodeOfBytes (← IO.FS.readBinFile place).toList)
  else
    return tree

/-- Note the directories among locations, without what is below them. -/
def loadDirectories (tree : FileTree) (locations : List Location) : IO FileTree :=
  locations.foldlM (fun tree location => do
    let place := (← IO.currentDir) / placeText location
    if !location.isEmpty && (← place.isDir) then return tree.set location .directory
    else return tree) tree

/-- Read what a path leads to. -/
def loadPath (tree : FileTree) (path : Path) : IO FileTree := do
  let locations := locationsAlong tree.current path
  load (← loadDirectories tree locations) (locations.getLast?.getD [])

/-- Write the nodes of a tree that another one does not have. -/
def saveChanges (before after : FileTree) : IO Unit := do
  for (location, node) in after.nodes do
    if before.at? location != some node then
      match bytesOfNode? node with
      | none => IO.FS.createDirAll (placeText location)
      | some bytes => IO.FS.writeBinFile (placeText location) ⟨bytes.toArray⟩

/-- The workspace in which a command is run. -/
def workspaceFor (arguments : List String) : IO Workspace := do
  let current := (Path.ofText (← IO.currentDir).toString).names
  let here : Path := { anchor := .root, names := current }
  let start ← loadDirectories { current := current } (locationsAlong [] here)
  let paths := match Invocation.ofArguments arguments with
    | .ok invocation => pathsOf invocation
    | .error _ => []
  let tree ← paths.foldlM loadPath start
  let values ← environmentNames.mapM fun name => do return (name, ← IO.getEnv name)
  return { tree, environment := values.filterMap fun (name, value) => value.map ((name, ·)) }

/-- Run a command on the files of the disk. -/
def run (arguments : List String) : IO UInt32 := do
  let workspace ← workspaceFor arguments
  let (result, after) := (Command.run "cluster-log" arguments).run workspace
  saveChanges workspace.tree after.tree
  match result with
  | .ok outcome =>
    IO.print outcome.output
    if let some complaint := outcome.complaint then
      IO.eprintln complaint
    return UInt32.ofNat outcome.exitCode
  | .error failure =>
    IO.eprintln (failure.message.getD "The index or a file cannot be used.")
    return 1

end ClusterLog.CommandLine

/-- The program. -/
def main (arguments : List String) : IO UInt32 :=
  ClusterLog.CommandLine.run arguments
