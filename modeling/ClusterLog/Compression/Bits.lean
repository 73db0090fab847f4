import ClusterLog.Failure

/-!
# Bits

Compressed data is a sequence of bits, the lowest bit of each byte first.  Numbers in it are written
with their lowest bit first.
-/

namespace ClusterLog.Compression

/-- A place in a sequence of bytes: the bits of the byte that is being read, and the bytes after
it. -/
structure BitSource where
  bits : List Bool := []
  bytes : List UInt8

namespace BitSource

/-- The bits of a byte, the lowest first. -/
def bitsOf (byte : UInt8) : List Bool :=
  (List.range 8).map fun index => byte.toNat.testBit index

/-- Read one bit. -/
def readBit (source : BitSource) : Except Failure (Bool × BitSource) :=
  match source.bits, source.bytes with
  | bit :: bits, bytes => .ok (bit, ⟨bits, bytes⟩)
  | [], byte :: bytes =>
    match bitsOf byte with
    | bit :: bits => .ok (bit, ⟨bits, bytes⟩)
    | [] => .error .truncatedFile
  | [], [] => .error .truncatedFile

/-- Read a number of a given width. -/
def readNumber : Nat → BitSource → Except Failure (Nat × BitSource)
  | 0, source => .ok (0, source)
  | width + 1, source => do
    let (bit, source) ← source.readBit
    let (upper, source) ← readNumber width source
    return (upper * 2 + bit.toNat, source)

/-- Skip the rest of the byte that is being read. -/
def align (source : BitSource) : BitSource :=
  { source with bits := [] }

/-- The number of bits that are left. -/
def size (source : BitSource) : Nat :=
  source.bits.length + 8 * source.bytes.length

end BitSource

end ClusterLog.Compression
