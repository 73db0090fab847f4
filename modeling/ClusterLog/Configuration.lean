import ClusterLog.Failure
import ClusterLog.Text.Integer

/-!
# Configuration

The settings of an index and of a report, and the environment variables that override them.
-/

namespace ClusterLog

open Text

/-- The environment variables that are set, by name. -/
abbrev Environment := List (String × String)

namespace Environment

/-- Set a variable, or unset it. -/
def assign (environment : Environment) (name : String) (value : Option String) : Environment :=
  let others := environment.filter (·.1 != name)
  match value with
  | some value => (name, value) :: others
  | none => others

/-- The positive integer that a variable holds.  An unset or empty variable holds none. -/
def positive? (environment : Environment) (name : String) : Except Failure (Option Int) :=
  match environment.lookup name with
  | none => .ok none
  | some text =>
    if text.isEmpty then
      .ok none
    else
      match readInteger? text.toList with
      | none => .error (.settingNotInteger name)
      | some value => if value < 1 then .error (.settingTooSmall name) else .ok (some value)

end Environment

/-- The variable that overrides the batch size. -/
def batchSizeVariable : String := "LOG_SEARCH_BATCH_SIZE"

/-- The variable that sets the report window. -/
def reportDaysVariable : String := "LOG_SEARCH_DAYS"

/-- The variable that sets the directory that tools are confined to. -/
def baseDirectoryVariable : String := "LOG_SEARCH_BASE_DIR"

/-- The report window where nothing sets it. -/
def defaultReportDays : Int := 90

/-- The settings of an index. -/
structure IndexConfig where
  /-- The number of documents that are collected before they are stored. -/
  batchSize : Int := 1000
  /-- Messages that hold one of these texts are not indexed. -/
  noiseMarkers : List String := ["StatusLogger.java"]
deriving DecidableEq

/-- The settings of an index with the overrides of the environment. -/
def IndexConfig.resolve (config : IndexConfig) (environment : Environment) :
    Except Failure IndexConfig := do
  match ← environment.positive? batchSizeVariable with
  | some batchSize => return { config with batchSize }
  | none => return config

/-- The number of days that a report covers: as asked for, else as the environment says. -/
def reportDays (days : Option Int) (environment : Environment) : Except Failure Int := do
  match days with
  | some days => if days < 1 then .error .daysTooSmall else .ok days
  | none => return (← environment.positive? reportDaysVariable).getD defaultReportDays

end ClusterLog
