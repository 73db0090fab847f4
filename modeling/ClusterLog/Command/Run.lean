import ClusterLog.Command.Commands
import ClusterLog.Tools.Search

/-!
# Running the program

A command writes its report to the output and ends with exit code 0.  Wrong arguments, missing files
and bad input are complained about in one message, with exit code 2.  Other failures are failures of
the program.
-/

namespace ClusterLog.Command

open Text

/-- How the program ends. -/
structure Outcome where
  exitCode : Nat := 0
  output : String := ""
  /-- The message on the error output. -/
  complaint : Option String := none

namespace Outcome

/-- The last line of the error output; nothing if there is none. -/
def lastLine (outcome : Outcome) : String :=
  match outcome.complaint with
  | some message => String.ofList (((splitLines message.toList).getLast?).getD [])
  | none => ""

/-- The end of a program that complains. -/
def complain (message : String) : Outcome where
  exitCode := 2
  complaint := some message

/-- The name of a program with a command. -/
def nameOf (program : String) : Option String → String
  | some command => program ++ " " ++ command
  | none => program

/-- The end of a program whose arguments lead to no command. -/
def ofRefusal (program : String) : Refusal → Outcome
  | .fault command fault => complain (nameOf program command ++ ": error: " ++ fault.message)
  | .help command => { output := "usage: " ++ nameOf program command ++ "\n" }

/-- How the program ends after a failure, if it reports the failure itself. -/
def ofFailure? (failure : Failure) : Option Outcome :=
  match failure with
  | .indexNotFound _ | .artifactsNotFound _ | .nodeNotFound _ | .logFileNotFound _ =>
    failure.message.map complain
  | .pathWithNull => some (complain "Error: embedded null byte")
  | .unreadableDate text => some (complain ("Error: " ++ Calendar.stampComplaint text))
  | .malformedTimestamp | .settingNotInteger _ | .settingTooSmall _ | .daysTooSmall
  | .negativeWindow | .unknownLevel _ | .limitNotPositive | .invalidMessageType _ | .pathEscapes _
  | .emptyQuery | .invalidQuery .. | .numberTooLong _ =>
    failure.message.map fun message => complain ("Error: " ++ message)
  | _ => none

end Outcome

/-- The line about a node in the report of an ingestion. -/
def nodeLine (days : Int) (truncated : List (String × Bool)) (summary : NodeSummary) : String :=
  let valid : Nat := (summary.files.map (·.2.valid)).foldr (· + ·) 0
  let skipped : Nat := (summary.files.map (·.2.skipped)).foldr (· + ·) 0
  let remark :=
    if (truncated.lookup summary.host).getD false then
      " (truncated to last " ++ integerText days ++ " days)"
    else
      ""
  summary.host ++ ": " ++ integerText summary.files.length ++ " files, " ++ integerText valid ++
    " valid, " ++ integerText skipped ++ " invalid" ++ remark ++ "\n"

/-- The line about an entry in the report of a search. -/
def entryLine (entry : Entry) : String :=
  entry.timestamp ++ " " ++ entry.host.getD "" ++ " [" ++ entry.level ++ "] " ++
    entry.messageText ++ "\n"

/-- Rebuild an index and report on each node. -/
def runIngest (settings : IngestSettings) : Work String := do
  let index := Path.ofText settings.index
  let config ← Work.freshConfig
  let (summaries, ranges) ← Work.rebuildWithRanges index config (Path.ofText settings.artifacts)
  let days ← Work.days settings.days
  let truncated ← (truncatedHosts ranges days : Except Failure (List (String × Bool)))
  let documents ← (← get).tree.documentCount index
  return String.join (summaries.map (nodeLine days truncated)) ++
    "\nIndexed " ++ integerText documents ++ " entries into " ++ index.text ++ ".\n"

/-- Search an index and report the entries that were found. -/
def runSearch (settings : SearchSettings) : Work String := do
  let _ ← Work.freshConfig
  let entries ← Work.searchWindow (Path.ofText settings.index) settings.days
    { query := settings.query, level := settings.level.map (·.name), limit := settings.limit }
  return String.join (entries.map entryLine) ++
    "\nFound " ++ integerText entries.length ++ " matching entries.\n"

/-- Run a command. -/
def Invocation.run : Invocation → Work String
  | .ingest settings => runIngest settings
  | .search settings => runSearch settings

/-- Run the program, which is called by a name, with arguments. -/
def run (program : String) (arguments : List String) : Work Outcome := do
  match Invocation.ofArguments arguments with
  | .error refusal => return .ofRefusal program refusal
  | .ok invocation =>
    tryCatch (do return { output := ← invocation.run }) fun failure =>
      match Outcome.ofFailure? failure with
      | some outcome => return outcome
      | none => throw failure

end ClusterLog.Command
