import ClusterLog.Files.Home

/-!
# Confinement of tool paths

Tools only touch files below a base directory.  The environment names it; without that it is the
directory that relative paths start from.
-/

namespace ClusterLog

/-- The base directory of tool paths. -/
def baseDirectory (environment : Environment) (current : List String) : Path :=
  (Path.ofText ((environment.lookup baseDirectoryVariable).getD "")).resolve current

/-- The path that a tool is given, from the root and without the name `..`.  Relative paths start
from the base directory or from a home directory, and the result has to be the base directory or lie
below it. -/
def confine (environment : Environment) (accounts : Accounts) (current : List String)
    (text : String) : Except Failure Path := do
  let base := baseDirectory environment current
  let path := base.join (← (Path.ofText text).expandHome (homeText? environment accounts))
  let resolved := path.resolve current
  if path.hasNull then .error .pathWithNull
  else if resolved.isWithin base then .ok resolved
  else .error (.pathEscapes base.text)

end ClusterLog
