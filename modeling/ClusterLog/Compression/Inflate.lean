import ClusterLog.Compression.Huffman

/-!
# Decompression

Compressed data is a sequence of blocks.  A block holds bytes as they are, or symbols of two codes:
the first code has literal bytes, the end of the block and the lengths of copies, the second one the
distances of copies.  The codes are fixed or written in front of the block.
-/

namespace ClusterLog.Compression

/-- The symbol that ends a block. -/
def endOfBlock : Nat := 256

/-- The shortest copy of each length symbol from 257 on, and the number of bits added to it. -/
def copyLengths : List (Nat × Nat) := [
  (3, 0), (4, 0), (5, 0), (6, 0), (7, 0), (8, 0), (9, 0), (10, 0), (11, 1), (13, 1), (15, 1),
  (17, 1), (19, 2), (23, 2), (27, 2), (31, 2), (35, 3), (43, 3), (51, 3), (59, 3), (67, 4), (83, 4),
  (99, 4), (115, 4), (131, 5), (163, 5), (195, 5), (227, 5), (258, 0)]

/-- The least distance of each distance symbol, and the number of bits added to it. -/
def copyDistances : List (Nat × Nat) := [
  (1, 0), (2, 0), (3, 0), (4, 0), (5, 1), (7, 1), (9, 2), (13, 2), (17, 3), (25, 3), (33, 4),
  (49, 4), (65, 5), (97, 5), (129, 6), (193, 6), (257, 7), (385, 7), (513, 8), (769, 8), (1025, 9),
  (1537, 9), (2049, 10), (3073, 10), (4097, 11), (6145, 11), (8193, 12), (12289, 12), (16385, 13),
  (24577, 13)]

/-- The fixed code of literals and lengths. -/
def fixedLiterals : Code :=
  .ofLengths (List.replicate 144 8 ++ List.replicate 112 9 ++ List.replicate 24 7 ++
    List.replicate 8 8)

/-- The fixed code of distances. -/
def fixedDistances : Code :=
  .ofLengths (List.replicate 32 5)

/-- Append a copy of earlier bytes; the copy may overlap itself. -/
def copyBack : Nat → Nat → Array UInt8 → Array UInt8
  | 0, _, output => output
  | count + 1, distance, output =>
    copyBack count distance (output.push ((output[output.size - distance]?).getD 0))

/-- The number that a symbol stands for, from a table of least numbers and additional bits. -/
def readScaled (table : List (Nat × Nat)) (symbol : Nat) (source : BitSource) :
    Except Failure (Nat × BitSource) :=
  match table[symbol]? with
  | none => .error .corruptData
  | some (least, width) => do
    let (more, source) ← source.readNumber width
    return (least + more, source)

/-- Read the symbols of a block.  Every step reads at least one bit. -/
def readSymbols (literals distances : Code) :
    Nat → Array UInt8 → BitSource → Except Failure (Array UInt8 × BitSource)
  | 0, _, _ => .error .truncatedFile
  | steps + 1, output, source => do
    let (symbol, source) ← literals.read source
    if symbol < endOfBlock then
      readSymbols literals distances steps (output.push (UInt8.ofNat symbol)) source
    else if symbol == endOfBlock then
      return (output, source)
    else
      let (length, source) ← readScaled copyLengths (symbol - 257) source
      let (symbol, source) ← distances.read source
      let (distance, source) ← readScaled copyDistances symbol source
      if output.size < distance then
        throw .corruptData
      readSymbols literals distances steps (copyBack length distance output) source

/-- Read a number of bytes. -/
def readBytes : Nat → Array UInt8 → List UInt8 → Except Failure (Array UInt8 × List UInt8)
  | 0, output, bytes => .ok (output, bytes)
  | _ + 1, _, [] => .error .truncatedFile
  | count + 1, output, byte :: bytes => readBytes count (output.push byte) bytes

/-- Read a block of bytes as they are, behind their number and its complement. -/
def readStored (output : Array UInt8) (source : BitSource) :
    Except Failure (Array UInt8 × BitSource) := do
  let (count, source) ← source.align.readNumber 16
  let (complement, source) ← source.readNumber 16
  if count + complement ≠ 0xFFFF then
    throw .corruptData
  let (output, bytes) ← readBytes count output source.bytes
  return (output, { bytes := bytes })

/-- The order in which the lengths of the code of code lengths are written. -/
def lengthOrder : List Nat := [16, 17, 18, 0, 8, 7, 9, 6, 10, 5, 11, 4, 12, 3, 13, 2, 14, 1, 15]

/-- Read a number of numbers of three bits. -/
def readTriples : Nat → BitSource → Except Failure (List Nat × BitSource)
  | 0, source => .ok ([], source)
  | count + 1, source => do
    let (value, source) ← source.readNumber 3
    let (values, source) ← readTriples count source
    return (value :: values, source)

/-- Read a symbol of the code of code lengths.  If that code is empty, every bit stands for zero. -/
def readLengthSymbol (code : Code) (source : BitSource) : Except Failure (Nat × BitSource) :=
  if code.isEmpty then do
    let (_, source) ← source.readBit
    return (0, source)
  else
    code.read source

/-- Read code lengths until there are `total` of them.  `lengths` are the ones read so far, the
latest first. -/
def readLengths (code : Code) (total : Nat) :
    Nat → List Nat → BitSource → Except Failure (List Nat × BitSource)
  | 0, _, _ => .error .truncatedFile
  | steps + 1, lengths, source =>
    if total ≤ lengths.length then
      .ok (lengths.reverse, source)
    else do
      let (symbol, source) ← readLengthSymbol code source
      if symbol < 16 then
        readLengths code total steps (symbol :: lengths) source
      else
        let (value, least, width) ← match symbol, lengths with
          | 16, last :: _ => pure (last, 3, 2)
          | 16, [] => do
            let _ ← source.readNumber 2
            throw .corruptData
          | 17, _ => pure (0, 3, 3)
          | _, _ => pure (0, 11, 7)
        let (more, source) ← source.readNumber width
        let count := least + more
        if total < lengths.length + count then
          throw .corruptData
        readLengths code total steps (List.replicate count value ++ lengths) source

/-- Read the codes in front of a block: first the code of the code lengths, then the lengths. -/
def readCodes (source : BitSource) : Except Failure ((Code × Code) × BitSource) := do
  let (sizes, source) ← source.readNumber 14
  let literalCount := sizes % 32 + 257
  let distanceCount := sizes / 32 % 32 + 1
  let tripleCount := sizes / 1024 + 4
  if 286 < literalCount || 30 < distanceCount then
    throw .corruptData
  let (triples, source) ← readTriples tripleCount source
  let lengthCode := Code.ofLengths ((List.range 19).map fun symbol =>
    ((lengthOrder.zip triples).lookup symbol).getD 0)
  if !(lengthCode.isEmpty || lengthCode.spare? == some 0) then
    throw .corruptData
  let total := literalCount + distanceCount
  let (lengths, source) ← readLengths lengthCode total (total + 1) [] source
  let literals := Code.ofLengths (lengths.take literalCount)
  let distances := Code.ofLengths (lengths.drop literalCount)
  if lengths[endOfBlock]? == some 0 || !literals.isUsable || !distances.isUsable then
    throw .corruptData
  return ((literals, distances), source)

/-- Read blocks up to the last one.  Every step reads at least three bits. -/
def readBlocks : Nat → Array UInt8 → BitSource → Except Failure (Array UInt8 × BitSource)
  | 0, _, _ => .error .truncatedFile
  | steps + 1, output, source => do
    let (head, source) ← source.readNumber 3
    let (output, source) ← match head / 2 with
      | 0 => readStored output source
      | 1 => readSymbols fixedLiterals fixedDistances (source.size + 1) output source
      | 2 => do
        let ((literals, distances), source) ← readCodes source
        readSymbols literals distances (source.size + 1) output source
      | _ => throw .corruptData
    if head % 2 == 1 then return (output, source) else readBlocks steps output source

/-- Decompress the beginning of a list of bytes: the output, and the bytes after the last block. -/
def inflate (bytes : List UInt8) : Except Failure (List UInt8 × List UInt8) := do
  let (output, source) ← readBlocks (8 * bytes.length + 1) #[] { bytes := bytes }
  return (output.toList, source.bytes)

end ClusterLog.Compression
