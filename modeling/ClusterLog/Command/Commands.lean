import ClusterLog.Command.Form
import ClusterLog.Severity
import ClusterLog.Text.Integer

/-!
# The commands

The program has two commands: one rebuilds an index from an artifacts directory, the other one
searches an index.
-/

namespace ClusterLog.Command

open Text

/-- What the ingestion command is given. -/
structure IngestSettings where
  artifacts : String := ""
  index : String := ""
  days : Option Int := none

/-- What the search command is given. -/
structure SearchSettings where
  index : String := ""
  query : String := ""
  level : Option Severity := none
  limit : Int := 100
  days : Option Int := none

/-- A command with its settings. -/
inductive Invocation where
  | ingest (settings : IngestSettings)
  | search (settings : SearchSettings)

/-- Read a number that is at least one. -/
def positiveNumber (command : String) (parameter : Parameter) (text : String) :
    Except Refusal Int :=
  match readInteger? text.toList with
  | none => .error (.fault (some command) (.valueUnreadable parameter "_positive_int" text))
  | some value =>
    if value < 1 then .error (.fault (some command) (.valueRefused parameter "must be >= 1"))
    else .ok value

/-- Read the name of a severity. -/
def severityNamed (command : String) (parameter : Parameter) (text : String) :
    Except Refusal Severity :=
  match Severity.ofText? text with
  | some severity => .ok severity
  | none => .error (.fault (some command) (.valueRefused parameter
      ("Invalid level. Allowed: " ++ ", ".intercalate (Severity.all.map (·.name)))))

/-- The value among the values of a parameter that takes one. -/
def single (values : List String) : String :=
  values.head?.getD ""

namespace IngestSettings

/-- The name of the ingestion command. -/
def command : String := "ingest"

/-- The directory with one directory for each node. -/
def artifactsPlace : Parameter := .positional "artifacts_dir"

/-- The file of the index that is rebuilt. -/
def indexOption : Parameter := .option ["--index"] true

/-- The days of the report window. -/
def daysOption : Parameter := .option ["--days"] false

/-- The form of the ingestion command. -/
def form : Form IngestSettings where
  command := some command
  parameters := [Form.helpFlag, artifactsPlace, indexOption, daysOption]
  assign settings parameter values := do
    if parameter = artifactsPlace then
      return { settings with artifacts := single values }
    else if parameter = indexOption then
      return { settings with index := single values }
    else if parameter = daysOption then
      return { settings with days := some (← positiveNumber command parameter (single values)) }
    else
      return settings

end IngestSettings

namespace SearchSettings

/-- The name of the search command. -/
def command : String := "search"

/-- The file of the index that is searched. -/
def indexPlace : Parameter := .positional "index"

/-- What is searched for. -/
def queryPlace : Parameter := .positional "query"

/-- The level that hits must have. -/
def levelOption : Parameter := .option ["--level"] false

/-- How many hits are taken. -/
def limitOption : Parameter := .option ["--limit"] false

/-- The days of the report window. -/
def daysOption : Parameter := .option ["--days"] false

/-- The form of the search command. -/
def form : Form SearchSettings where
  command := some command
  parameters := [Form.helpFlag, indexPlace, queryPlace, levelOption, limitOption, daysOption]
  assign settings parameter values := do
    if parameter = indexPlace then
      return { settings with index := single values }
    else if parameter = queryPlace then
      return { settings with query := single values }
    else if parameter = levelOption then
      return { settings with level := some (← severityNamed command parameter (single values)) }
    else if parameter = limitOption then
      return { settings with limit := ← positiveNumber command parameter (single values) }
    else if parameter = daysOption then
      return { settings with days := some (← positiveNumber command parameter (single values)) }
    else
      return settings

end SearchSettings

/-- What the program is given: a command, and the arguments that the command does not know. -/
structure ProgramSettings where
  command : Option Invocation := none
  extras : List String := []

namespace ProgramSettings

/-- The option that asks for progress messages. -/
def verboseFlag : Parameter := .flag ["-v", "--verbose"]

/-- The name of the command, with its arguments behind it. -/
def commandPlace : Parameter := .command "command"

/-- The names of the commands. -/
def commandNames : List String := [IngestSettings.command, SearchSettings.command]

/-- Read the arguments of the command with a name. -/
def readCommand (name : String) (arguments : List String) : Except Refusal ProgramSettings := do
  if name = IngestSettings.command then
    let reading ← IngestSettings.form.read {} arguments
    return { command := some (.ingest reading.settings), extras := reading.extras }
  else if name = SearchSettings.command then
    let reading ← SearchSettings.form.read {} arguments
    return { command := some (.search reading.settings), extras := reading.extras }
  else
    throw (.fault none (.unknownChoice commandPlace name commandNames))

/-- The form of the program. -/
def form : Form ProgramSettings where
  command := none
  parameters := [Form.helpFlag, verboseFlag, commandPlace]
  assign settings parameter values :=
    match parameter, values with
    | .command _, name :: arguments => readCommand name arguments
    | _, _ => .ok settings

end ProgramSettings

/-- Read the arguments of the program. -/
def Invocation.ofArguments (arguments : List String) : Except Refusal Invocation := do
  let reading ← ProgramSettings.form.read {} arguments
  let extras := reading.extras ++ reading.settings.extras
  if !extras.isEmpty then
    throw (.fault none (.unrecognized extras))
  match reading.settings.command with
  | some command => return command
  | none => throw (.fault none (.missing [ProgramSettings.commandPlace]))

end ClusterLog.Command
