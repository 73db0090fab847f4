import ClusterLog.Failure

/-!
# Limits and levels of tool calls
-/

namespace ClusterLog

open Text

/-- The greatest number of hits that a tool fetches. -/
def hardLimit : Int := 5000

/-- The number of hits that a search fetches unless it is told otherwise. -/
def defaultLimit : Int := 100

/-- The number of hits to fetch: a default where none is given, and never more than `hardLimit`. -/
def resolveLimit (limit : Option Int) (default : Int) : Except Failure Int :=
  match limit with
  | none => .ok default
  | some limit => if limit ≤ 0 then .error .limitNotPositive else .ok (min limit hardLimit)

/-- The level that a tool is given; blank text stands for none. -/
def levelOf (level : Option String) : Except Failure (Option Severity) :=
  match level with
  | none => .ok none
  | some text =>
    if isBlankText text.toList then .ok none
    else
      match Severity.ofText? text with
      | some severity => .ok (some severity)
      | none => .error (.unknownLevel text)

end ClusterLog
