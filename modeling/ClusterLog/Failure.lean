import ClusterLog.Severity
import ClusterLog.Text.Integer
import ClusterLog.Text.Quoted

/-!
# Failures

Everything that can go wrong, as causes.  `Failure.message` words the ones that this library
reports in its own words; the others are reported by their kind alone.
-/

namespace ClusterLog

open Text

/-- A cause of failure. -/
inductive Failure where
  /-- A timestamp that is not fourteen digits. -/
  | malformedTimestamp
  /-- A text that is no date in its format. -/
  | unreadableDate (text : String)
  /-- A point in time outside the calendar. -/
  | dateOutOfRange
  /-- A written number with more digits than are read. -/
  | numberTooLong (digits : Nat)
  /-- A setting that is no integer. -/
  | settingNotInteger (name : String)
  /-- A setting below one. -/
  | settingTooSmall (name : String)
  /-- A report window of no days. -/
  | daysTooSmall
  /-- A report window of a negative number of days. -/
  | negativeWindow
  | unknownLevel (text : String)
  | limitNotPositive
  /-- A limit that the index cannot represent. -/
  | limitTooLarge
  | invalidMessageType (text : String)
  /-- A path outside the base directory. -/
  | pathEscapes (base : String)
  /-- A path with a null character. -/
  | pathWithNull
  /-- A home directory that is not recorded. -/
  | homeUnknown
  | emptyQuery
  /-- A query that the query language rejects. -/
  | invalidQuery (query reason : String)
  /-- A failure of the index other than a query that the language rejects. -/
  | indexFailure (reason : String)
  /-- An index file that is no index. -/
  | notAnIndex (path : String)
  | indexNotFound (path : String)
  | writerOpen (path : String)
  | writerBlocksSearch (path : String)
  | noWriter
  | noSearcher
  | searcherClosed
  | artifactsNotFound (path : String)
  | nodeNotFound (path : String)
  | logFileNotFound (path : String)
  /-- A missing file that is read directly. -/
  | fileMissing (path : String)
  /-- A directory where a file is needed. -/
  | isDirectory (path : String)
  /-- A file where a directory is needed. -/
  | notDirectory (path : String)
  /-- A negative number of lines. -/
  | negativeCount
  /-- A text that is no pattern. -/
  | invalidPattern (text : String)
  /-- A compressed file that ends too early. -/
  | truncatedFile
  /-- A compressed file with a wrong header, checksum or length. -/
  | badCompressedFile
  /-- Compressed data that cannot be decompressed. -/
  | corruptData
deriving DecidableEq

namespace Failure

/-- The wording of a failure, where it has one. -/
def message : Failure → Option String
  | malformedTimestamp => some "timestamp must look like yyyyMMddHHmmss (e.g., 20200101000000)"
  | numberTooLong digits => some ("Exceeds the limit (" ++ integerText maxDigits ++
      " digits) for integer string conversion: value has " ++ integerText digits ++
      " digits; use sys.set_int_max_str_digits() to increase the limit")
  | settingNotInteger name => some (name ++ " must be an integer")
  | settingTooSmall name => some (name ++ " must be >= 1")
  | daysTooSmall => some "days must be >= 1"
  | negativeWindow => some "days_included must be >= 0"
  | unknownLevel text => some ("Unknown log level '" ++ text ++ "'. Valid values: " ++
      ", ".intercalate (Severity.all.map (·.name)) ++
      ". Tip: level is case-insensitive (e.g., 'warn', 'ERROR').")
  | limitNotPositive => some "limit must be > 0"
  | invalidMessageType text =>
    some ("Invalid message type " ++ quoted text ++ ". Example: MUTATION, READ, HINT")
  | pathEscapes base => some ("Path escapes base dir (LOG_SEARCH_BASE_DIR=" ++ base ++ ")")
  | emptyQuery => some "Query must not be empty"
  | invalidQuery query reason => some ("Invalid query " ++ quoted query ++ ": " ++ reason)
  | indexNotFound path => some ("Index not found: " ++ path)
  | writerOpen path => some ("Index " ++ path ++ " already has an open writer")
  | writerBlocksSearch path => some ("Close the writer on " ++ path ++ " before searching")
  | searcherClosed => some "Searcher is closed"
  | artifactsNotFound path => some ("Artifacts directory not found: " ++ path)
  | nodeNotFound path => some ("Node directory not found: " ++ path)
  | logFileNotFound path => some ("Log file not found: " ++ path)
  | negativeCount => some "maxlen must be non-negative"
  | _ => none

end Failure

end ClusterLog
