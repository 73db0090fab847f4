import ClusterLog.Compression.Checksum
import ClusterLog.Compression.Inflate

/-!
# Compressed files

A compressed file is a sequence of members: a header, compressed data, the checksum of the output
and its length.  Zeros may follow a member.  An empty file has no members and no output.
-/

namespace ClusterLog.Compression

/-- Split off a number of bytes. -/
def takeBytes (count : Nat) (bytes : List UInt8) : Except Failure (List UInt8 × List UInt8) :=
  if count ≤ bytes.length then .ok (bytes.take count, bytes.drop count) else .error .truncatedFile

/-- A number, its lowest byte first. -/
def littleEndian : List UInt8 → Nat
  | [] => 0
  | byte :: bytes => byte.toNat + 256 * littleEndian bytes

/-- Skip a text that ends with a zero. -/
def skipText (bytes : List UInt8) : List UInt8 :=
  (bytes.dropWhile (· != 0)).drop 1

/-- The bytes after the header of a member.  Bits of `flags` say which optional parts it has: a
field of its own length, a file name, a comment, and a checksum. -/
def skipOptionalParts (flags : UInt8) (bytes : List UInt8) : Except Failure (List UInt8) := do
  let mut rest := bytes
  if flags &&& 4 != 0 then
    let (size, afterSize) ← takeBytes 2 rest
    let (_, afterField) ← takeBytes (littleEndian size) afterSize
    rest := afterField
  if flags &&& 8 != 0 then
    rest := skipText rest
  if flags &&& 16 != 0 then
    rest := skipText rest
  if flags &&& 2 != 0 then
    let (_, afterChecksum) ← takeBytes 2 rest
    rest := afterChecksum
  return rest

/-- The bytes after the header of a member. -/
def skipHeader (bytes : List UInt8) : Except Failure (List UInt8) :=
  if bytes.take 2 != [0x1F, 0x8B] then
    .error .badCompressedFile
  else do
    let (fields, rest) ← takeBytes 8 (bytes.drop 2)
    match fields with
    | method :: flags :: _ =>
      if method == 8 then skipOptionalParts flags rest else throw .badCompressedFile
    | _ => throw .truncatedFile

/-- Read one member: its output, and the bytes after it and the zeros that follow it. -/
def readMember (bytes : List UInt8) : Except Failure (List UInt8 × List UInt8) := do
  let (output, rest) ← inflate (← skipHeader bytes)
  let (trailer, rest) ← takeBytes 8 rest
  if littleEndian (trailer.take 4) ≠ (checksum output).toNat then
    throw .badCompressedFile
  if littleEndian (trailer.drop 4) ≠ output.length % 4294967296 then
    throw .badCompressedFile
  return (output, rest.dropWhile (· == 0))

/-- Read members up to the end.  Every member takes more than one byte. -/
def readMembers : Nat → List UInt8 → Except Failure (List UInt8)
  | _, [] => .ok []
  | 0, _ => .error .truncatedFile
  | steps + 1, bytes => do
    let (output, rest) ← readMember bytes
    let others ← readMembers steps rest
    return output ++ others

/-- The output of a compressed file. -/
def gunzip (bytes : List UInt8) : Except Failure (List UInt8) :=
  readMembers bytes.length bytes

end ClusterLog.Compression
