import ClusterLog.Appender.Settings
import ClusterLog.Files.Tree
import ClusterLog.Pattern.Reader

/-!
# Finding log files

A node is a directory with its logger configuration below `conf` and its log files below `logs`.
The files of the best appender are its logs; where there are none, files with well-known names are.
-/

namespace ClusterLog

open Text

namespace FileTree

/-- The files below a directory whose whole names match a pattern, in the order of paths. -/
def filesMatching (tree : FileTree) (directory : Path) (pattern : Pattern) : List Path :=
  if tree.isDirectory directory then
    (tree.below directory).filter fun path =>
      tree.isFile path && (pattern.matchWhole? path.name.toList).isSome
  else
    []

/-- The files below a directory whose whole names match a written pattern. -/
def filesMatchingText (tree : FileTree) (directory : Path) (text : String) :
    Except Failure (List Path) :=
  if tree.isDirectory directory then
    match Pattern.read? Appender.lineChar text.toList with
    | some (pattern, _) => .ok (tree.filesMatching directory pattern)
    | none => .error (.invalidPattern text)
  else
    .ok []

/-- The lines of a node's logger configuration: those of the first `logback.xml` below `conf`. -/
def configurationLines (tree : FileTree) (node : Path) : Except Failure (List String) :=
  let directory := node.child "conf"
  if tree.isDirectory directory then
    match (tree.below directory).find? (·.name == "logback.xml") with
    | some path => do
      let text ← tree.plainText path
      return (splitLines (unifyLineEnds text)).map String.ofList
    | none => .ok []
  else
    .ok []

/-- The log files of a node and the appender that they belong to. -/
def logFiles (tree : FileTree) (node : Path) : Except Failure (List Path × Appender) := do
  let settings := LoggerSettings.ofLines (← tree.configurationLines node)
  let appender := Appender.select settings.appenders
  let directory := node.child "logs"
  let own := match appender.namePattern? with
    | some names => tree.filesMatching directory names.pattern
    | none => []
  if own.isEmpty then
    return (tree.filesMatching directory Appender.wellKnown.pattern, appender)
  else
    return (own, appender)

end FileTree

end ClusterLog
