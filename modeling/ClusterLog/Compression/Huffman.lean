import ClusterLog.Compression.Bits

/-!
# Codes of variable length

A code gives each symbol a length in bits.  Codewords of one length are consecutive numbers in the
order of their symbols and follow the shorter ones, so the lengths determine the code.
-/

namespace ClusterLog.Compression

/-- A code: for each length, beginning with one, the symbols with codewords of that length. -/
abbrev Code := List (List Nat)

/-- The greatest length of a codeword. -/
def maxLength : Nat := 15

/-- The code with given lengths of the symbols 0, 1, …; length zero leaves a symbol out. -/
def Code.ofLengths (lengths : List Nat) : Code :=
  (List.range maxLength).map fun index =>
    (lengths.zipIdx.filter fun (length, _) => length == index + 1).map (·.2)

/-- The number of codewords of the last length that are left over, or nothing if the code has too
many. -/
def Code.spare? (code : Code) : Option Nat :=
  code.foldl (fun spare? symbols => do
    let spare ← spare?
    if symbols.length ≤ 2 * spare then some (2 * spare - symbols.length) else none) (some 1)

/-- Whether a code has no symbols. -/
def Code.isEmpty (code : Code) : Bool :=
  code.all (·.isEmpty)

/-- Whether all codewords of a code have one bit. -/
def Code.isSingleBit (code : Code) : Bool :=
  (code.drop 1).all (·.isEmpty)

/-- Whether a code can be used: it has not too many codewords, and too few only where it has at most
one, of one bit. -/
def Code.isUsable (code : Code) : Bool :=
  match code.spare? with
  | some spare => spare == 0 || code.isSingleBit
  | none => false

/-- Read a symbol.  `first` is the number of the first codeword of the current length, `value` the
number of the bits read so far. -/
def Code.readFrom : Code → (first value : Nat) → BitSource → Except Failure (Nat × BitSource)
  | [], _, _, _ => .error .corruptData
  | symbols :: longer, first, value, source => do
    let (bit, source) ← source.readBit
    let value := 2 * value + bit.toNat
    let first := 2 * first
    match symbols[value - first]? with
    | some symbol => return (symbol, source)
    | none => Code.readFrom longer (first + symbols.length) value source

/-- Read a symbol.  A code of one bit or less refuses a wrong bit at once. -/
def Code.read (code : Code) (source : BitSource) : Except Failure (Nat × BitSource) :=
  Code.readFrom (if code.isSingleBit then code.take 1 else code) 0 0 source

end ClusterLog.Compression
