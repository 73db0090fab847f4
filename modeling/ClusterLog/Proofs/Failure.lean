import ClusterLog.Failure

/-!
# Kinds of failures

A failure refuses a value that was given, misses a file that was named, or comes
from the contents of files.  These kinds exclude each other.
-/

namespace ClusterLog.Failure

/-- Whether a failure refuses a value. -/
def isInvalidValue : Failure → Bool
  | malformedTimestamp | unreadableDate _ | numberTooLong _
  | settingNotInteger _ | settingTooSmall _ | daysTooSmall | negativeWindow
  | unknownLevel _ | limitNotPositive | invalidMessageType _
  | pathEscapes _ | pathWithNull | emptyQuery | invalidQuery _ _
  | negativeCount => true
  | _ => false

/-- Whether a failure misses a file or a directory. -/
def isMissingFile : Failure → Bool
  | indexNotFound _ | artifactsNotFound _ | nodeNotFound _
  | logFileNotFound _ | fileMissing _ => true
  | _ => false

/-- Whether a failure says that a file cannot be decompressed. -/
def isDamage : Failure → Bool
  | truncatedFile | badCompressedFile | corruptData => true
  | _ => false

/-- Whether a failure comes from the contents of files: one cannot be
decompressed, a directory has the name of a file that is read, or a date in them
is too close to the beginning of the calendar. -/
def isAboutContents : Failure → Bool
  | isDirectory _ | dateOutOfRange => true
  | failure => failure.isDamage

theorem isAboutContents_of_isDamage {failure : Failure}
    (damage : failure.isDamage = true) : failure.isAboutContents = true := by
  cases failure <;> first | rfl | exact damage

theorem kinds_of_isAboutContents {failure : Failure}
    (late : failure.isAboutContents = true) :
    failure.isInvalidValue = false ∧ failure.isMissingFile = false := by
  cases failure <;> first | exact ⟨rfl, rfl⟩ | cases late

end ClusterLog.Failure
