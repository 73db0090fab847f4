/-!
# Checksums

The cyclic redundancy check of 32 bits over a list of bytes, with the reflected polynomial
`0xEDB88320`.
-/

namespace ClusterLog.Compression

/-- Divide by the polynomial, bit by bit. -/
def divideBits : Nat → UInt32 → UInt32
  | 0, remainder => remainder
  | count + 1, remainder =>
    let shifted := remainder >>> 1
    divideBits count (if remainder &&& 1 == 1 then shifted ^^^ 0xEDB88320 else shifted)

/-- The checksum of a list of bytes. -/
def checksum (bytes : List UInt8) : UInt32 :=
  (bytes.foldl (fun remainder byte => divideBits 8 (remainder ^^^ byte.toUInt32)) 0xFFFFFFFF) ^^^
    0xFFFFFFFF

end ClusterLog.Compression
