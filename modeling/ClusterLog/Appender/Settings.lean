import ClusterLog.Appender.Basic
import ClusterLog.Xml.Reader

/-!
# Logger settings

The appenders that a node's logger configuration describes.  A missing configuration, one that is
not well-formed and one with another root element stand for the stock system log.
-/

namespace ClusterLog

/-- The appenders of a configuration, and its lines if they were used. -/
structure LoggerSettings where
  appenders : List Appender
  lines : List String := []

namespace LoggerSettings

/-- The settings of a node without usable configuration. -/
def default : LoggerSettings where
  appenders := [.unconfigured]

/-- An appender element.  Its threshold is the stricter of the root level and its filter's level. -/
def appenderOf (rootLevel : Severity) (element : Xml.Element) : Appender :=
  let filterText := (element.descend? ["filter", "level"]).bind (·.text?)
  let filterLevel := (Severity.parse filterText (some .info)).getD .info
  let layout := ((element.descend? ["encoder", "pattern"]).bind (·.text?)).getD ""
  { name := (element.attribute? "name").getD ""
    className := (element.attribute? "class").getD ""
    files := (element.childrenNamed "file").map fun file => file.text?.getD ""
    threshold := Severity.stricter rootLevel filterLevel
    layout := if layout.isEmpty then Layout.stock else layout }

/-- The settings in the lines of a configuration. -/
def ofLines (lines : List String) : LoggerSettings :=
  if lines.isEmpty then
    default
  else
    match Xml.readDocument? ("\n".intercalate lines).toList with
    | none => default
    | some document =>
      if document.name == .plain "configuration" then
        let rootText := (document.child? "root").bind (·.attribute? "level")
        let rootLevel := (Severity.parse rootText (some .info)).getD .info
        { appenders := (document.childrenNamed "appender").map (appenderOf rootLevel), lines }
      else
        default

end LoggerSettings

end ClusterLog
