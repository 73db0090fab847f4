import ClusterLog.Index.Store
import ClusterLog.Text.Find
import ClusterLog.Text.Integer

/-!
# Index images

The text that keeps the contents of an index in a file.  It begins with a title.  Then every part is
a letter with the fields that belong to it, and a field is its length, a colon and its characters,
so that it may hold any text.
-/

namespace ClusterLog

open Text

/-- The beginning of every image. -/
def imageTitle : List Char := "cluster log index\n".toList

/-- A field of an image. -/
def writeField (field : String) : List Char :=
  decimal field.length ++ ':' :: field.toList

/-- Read a field at the beginning of a text. -/
def readField? (text : List Char) : Option (String × List Char) := do
  let (digits, rest) ← readRun? isAsciiDigit text
  let size ← readNatural? digits
  let rest ← dropLiteral? [':'] rest
  let field := rest.take size
  if field.length = size then some (String.ofList field, rest.drop size) else none

/-- Read records at the beginning of a text; each of them follows its letter. -/
def readRecords? {α : Type} (letter : Char) (read : List Char → Option (α × List Char)) :
    Nat → List Char → Option (List α × List Char)
  | fuel + 1, c :: text =>
    if c == letter then do
      let (first, rest) ← read text
      let (others, rest) ← readRecords? letter read fuel rest
      return (first :: others, rest)
    else
      some ([], c :: text)
  | _, text => some ([], text)

/-- Read a part of an image, which is there if its own letter is. -/
def readPart? {α : Type} (opening letter : Char) (read : List Char → Option (α × List Char))
    (text : List Char) : Option (Option (List α) × List Char) :=
  match dropLiteral? [opening] text with
  | some rest => (readRecords? letter read rest.length rest).map fun (records, rest) =>
      (some records, rest)
  | none => some (none, text)

namespace Document

/-- The fields of a document in an image. -/
def image (document : Document) : List Char :=
  [document.host, document.level, document.message, document.timestamp].flatMap writeField

/-- Read the fields of a document. -/
def ofImage? (text : List Char) : Option (Document × List Char) := do
  let (host, rest) ← readField? text
  let (level, rest) ← readField? rest
  let (message, rest) ← readField? rest
  let (timestamp, rest) ← readField? rest
  return (⟨host, level, message, timestamp⟩, rest)

end Document

namespace SavedRange

/-- The fields of a saved date range in an image. -/
def image (saved : SavedRange) : List Char :=
  [saved.host, saved.first, saved.last].flatMap writeField

/-- Read the fields of a saved date range. -/
def ofImage? (text : List Char) : Option (SavedRange × List Char) := do
  let (host, rest) ← readField? text
  let (first, rest) ← readField? rest
  let (last, rest) ← readField? rest
  return (⟨host, first, last⟩, rest)

end SavedRange

namespace Store

/-- The image of an index. -/
def image (store : Store) : List Char :=
  let documents := match store.documents with
    | some documents => 'D' :: documents.flatMap fun document => 'd' :: document.image
    | none => []
  let ranges := match store.ranges with
    | some ranges => 'R' :: ranges.flatMap fun saved => 'r' :: saved.image
    | none => []
  imageTitle ++ documents ++ ranges

/-- The index with an image. -/
def ofImage? (text : List Char) : Option Store := do
  let rest ← dropLiteral? imageTitle text
  let (documents, rest) ← readPart? 'D' 'd' Document.ofImage? rest
  let (ranges, rest) ← readPart? 'R' 'r' SavedRange.ofImage? rest
  if rest.isEmpty then some { documents, ranges } else none

end Store

end ClusterLog
