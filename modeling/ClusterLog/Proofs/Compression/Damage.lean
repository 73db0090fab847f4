import ClusterLog.Compression.Gzip
import ClusterLog.Proofs.Computation
import ClusterLog.Proofs.Failure

/-!
# Damaged files

Whatever the bytes of a compressed file are, its decompression fails only by
saying that the file is damaged: that it ends too early, that its header,
checksum or length is wrong, or that its data cannot be decompressed.
-/

namespace ClusterLog.Compression

variable {Value Middle : Type}

/-- A computation fails only because a file is damaged. -/
def FailsDamaged (computation : Except Failure Value) : Prop :=
  Satisfies (fun _ => True) (·.isDamage = true) computation

theorem failsDamaged_pure (value : Value) :
    FailsDamaged (pure value : Except Failure Value) :=
  trivial

theorem failsDamaged_throw_bind {failure : Failure}
    {next : Middle → Except Failure Value}
    (damage : failure.isDamage = true) :
    FailsDamaged (throw failure >>= next) :=
  damage

theorem FailsDamaged.bind {first : Except Failure Middle}
    {next : Middle → Except Failure Value} (begins : FailsDamaged first)
    (goesOn : ∀ middle, FailsDamaged (next middle)) :
    FailsDamaged (first >>= next) :=
  Satisfies.bind begins fun middle _ => goesOn middle

/-! ## Bits and codes -/

theorem failsDamaged_readBit (source : BitSource) :
    FailsDamaged source.readBit := by
  unfold BitSource.readBit
  split
  · trivial
  · split
    · trivial
    · exact rfl
  · exact rfl

theorem failsDamaged_readNumber (width : Nat) (source : BitSource) :
    FailsDamaged (source.readNumber width) := by
  induction width generalizing source with
  | zero => trivial
  | succ width ih =>
      rw [BitSource.readNumber]
      refine (failsDamaged_readBit source).bind fun bit => ?_
      exact (ih bit.2).bind fun _ => trivial

theorem failsDamaged_readFrom (code : Code) (first value : Nat)
    (source : BitSource) :
    FailsDamaged (code.readFrom first value source) := by
  induction code generalizing first value source with
  | nil => exact rfl
  | cons symbols longer ih =>
      rw [Code.readFrom]
      refine (failsDamaged_readBit source).bind ?_
      rintro ⟨bit, source⟩
      dsimp only
      split
      · trivial
      · exact ih _ _ _

theorem failsDamaged_read (code : Code) (source : BitSource) :
    FailsDamaged (code.read source) :=
  failsDamaged_readFrom _ 0 0 source

/-! ## Blocks -/

theorem failsDamaged_readScaled (table : List (Nat × Nat)) (symbol : Nat)
    (source : BitSource) :
    FailsDamaged (readScaled table symbol source) := by
  unfold readScaled
  split
  · exact rfl
  · exact (failsDamaged_readNumber _ source).bind fun _ => trivial

theorem failsDamaged_readSymbols (literals distances : Code) (steps : Nat)
    (output : Array UInt8) (source : BitSource) :
    FailsDamaged (readSymbols literals distances steps output source) := by
  induction steps generalizing output source with
  | zero => exact rfl
  | succ steps ih =>
      rw [readSymbols]
      refine (failsDamaged_read literals source).bind ?_
      rintro ⟨symbol, source⟩
      dsimp only
      split
      · exact ih _ _
      · split
        · trivial
        · -- The subtraction must not be evaluated, since it counts down.
          generalize symbol - 257 = index
          refine (failsDamaged_readScaled copyLengths index source).bind ?_
          rintro ⟨length, source⟩
          refine (failsDamaged_read distances source).bind ?_
          rintro ⟨symbol, source⟩
          refine (failsDamaged_readScaled copyDistances symbol source).bind ?_
          rintro ⟨distance, source⟩
          dsimp only
          split
          · exact failsDamaged_throw_bind rfl
          · exact ih _ _

theorem failsDamaged_readBytes (count : Nat) (output : Array UInt8)
    (bytes : List UInt8) :
    FailsDamaged (readBytes count output bytes) := by
  induction count generalizing output bytes with
  | zero => trivial
  | succ count ih =>
      cases bytes with
      | nil => exact rfl
      | cons byte bytes => exact ih _ bytes

theorem failsDamaged_readStored (output : Array UInt8) (source : BitSource) :
    FailsDamaged (readStored output source) := by
  unfold readStored
  refine (failsDamaged_readNumber _ _).bind ?_
  rintro ⟨count, source⟩
  refine (failsDamaged_readNumber _ source).bind ?_
  rintro ⟨complement, source⟩
  dsimp only
  split
  · exact rfl
  · exact (failsDamaged_readBytes _ _ _).bind fun _ => trivial

theorem failsDamaged_readTriples (count : Nat) (source : BitSource) :
    FailsDamaged (readTriples count source) := by
  induction count generalizing source with
  | zero => trivial
  | succ count ih =>
      rw [readTriples]
      refine (failsDamaged_readNumber _ source).bind fun value => ?_
      exact (ih value.2).bind fun _ => trivial

theorem failsDamaged_readLengthSymbol (code : Code) (source : BitSource) :
    FailsDamaged (readLengthSymbol code source) := by
  unfold readLengthSymbol
  split
  · exact (failsDamaged_readBit source).bind fun _ => trivial
  · exact failsDamaged_read code source

theorem failsDamaged_readLengths (code : Code) (total steps : Nat)
    (lengths : List Nat) (source : BitSource) :
    FailsDamaged (readLengths code total steps lengths source) := by
  induction steps generalizing lengths source with
  | zero => exact rfl
  | succ steps ih =>
      rw [readLengths]
      split
      · trivial
      · refine (failsDamaged_readLengthSymbol code source).bind ?_
        rintro ⟨symbol, source⟩
        dsimp only
        have goesOn : ∀ repeated : Nat × Nat × Nat, FailsDamaged (do
            let more ← source.readNumber repeated.2.2
            if total < lengths.length + (repeated.2.1 + more.1) then
              throw .corruptData
            readLengths code total steps
              (List.replicate (repeated.2.1 + more.1) repeated.1 ++ lengths)
              more.2) := by
          intro repeated
          refine (failsDamaged_readNumber _ source).bind fun more => ?_
          split
          · exact failsDamaged_throw_bind rfl
          · exact ih _ _
        split
        · exact ih _ _
        · split
          · exact (failsDamaged_pure _).bind goesOn
          · refine (failsDamaged_readNumber _ source).bind fun _ => ?_
            exact failsDamaged_throw_bind rfl
          · exact (failsDamaged_pure _).bind goesOn
          · exact (failsDamaged_pure _).bind goesOn

theorem failsDamaged_readCodes (source : BitSource) :
    FailsDamaged (readCodes source) := by
  unfold readCodes
  refine (failsDamaged_readNumber _ source).bind ?_
  rintro ⟨sizes, source⟩
  dsimp only
  split
  · exact rfl
  · refine (failsDamaged_readTriples _ source).bind ?_
    rintro ⟨triples, source⟩
    dsimp only
    split
    · exact rfl
    · refine (failsDamaged_readLengths _ _ _ _ source).bind ?_
      rintro ⟨lengths, source⟩
      dsimp only
      split
      · exact rfl
      · trivial

theorem failsDamaged_readBlocks (steps : Nat) (output : Array UInt8)
    (source : BitSource) :
    FailsDamaged (readBlocks steps output source) := by
  induction steps generalizing output source with
  | zero => exact rfl
  | succ steps ih =>
      rw [readBlocks]
      refine (failsDamaged_readNumber _ source).bind ?_
      rintro ⟨head, source⟩
      have goesOn : ∀ block : Array UInt8 × BitSource, FailsDamaged
          (if head % 2 == 1 then pure block
            else readBlocks steps block.1 block.2) := by
        intro block
        split
        · trivial
        · exact ih _ _
      dsimp only
      split
      · exact (failsDamaged_readStored _ source).bind goesOn
      · exact (failsDamaged_readSymbols _ _ _ _ source).bind goesOn
      · refine (failsDamaged_readCodes source).bind fun codes => ?_
        exact (failsDamaged_readSymbols _ _ _ _ codes.2).bind goesOn
      · exact failsDamaged_throw_bind rfl

theorem failsDamaged_inflate (bytes : List UInt8) :
    FailsDamaged (inflate bytes) :=
  (failsDamaged_readBlocks _ _ _).bind fun _ => trivial

/-! ## Members -/

theorem failsDamaged_takeBytes (count : Nat) (bytes : List UInt8) :
    FailsDamaged (takeBytes count bytes) := by
  unfold takeBytes
  split
  · trivial
  · exact rfl

theorem failsDamaged_skipOptionalParts (flags : UInt8) (bytes : List UInt8) :
    FailsDamaged (skipOptionalParts flags bytes) := by
  have behindTexts : ∀ rest, FailsDamaged (do
      if flags &&& 2 != 0 then
        return (← takeBytes 2 rest).2
      return rest) := by
    intro rest
    split
    · exact (failsDamaged_takeBytes 2 rest).bind fun _ => trivial
    · trivial
  unfold skipOptionalParts
  dsimp only
  split
  · refine (failsDamaged_takeBytes 2 bytes).bind fun size => ?_
    refine (failsDamaged_takeBytes _ size.2).bind fun field => ?_
    split <;> split <;> exact behindTexts _
  · split <;> split <;> exact behindTexts _

theorem failsDamaged_skipHeader (bytes : List UInt8) :
    FailsDamaged (skipHeader bytes) := by
  unfold skipHeader
  split
  · exact rfl
  · refine (failsDamaged_takeBytes _ _).bind ?_
    rintro ⟨fields, rest⟩
    dsimp only
    split
    · split
      · exact failsDamaged_skipOptionalParts _ _
      · exact rfl
    · exact rfl

theorem failsDamaged_readMember (bytes : List UInt8) :
    FailsDamaged (readMember bytes) := by
  unfold readMember
  refine (failsDamaged_skipHeader bytes).bind fun body => ?_
  refine (failsDamaged_inflate body).bind ?_
  rintro ⟨output, rest⟩
  refine (failsDamaged_takeBytes _ rest).bind ?_
  rintro ⟨trailer, rest⟩
  dsimp only
  split
  · exact rfl
  · split
    · exact rfl
    · trivial

theorem failsDamaged_readMembers (steps : Nat) (bytes : List UInt8) :
    FailsDamaged (readMembers steps bytes) := by
  induction steps generalizing bytes with
  | zero => cases bytes <;> trivial
  | succ steps ih =>
      cases bytes with
      | nil => trivial
      | cons byte bytes =>
          rw [readMembers]
          · refine (failsDamaged_readMember _).bind fun member => ?_
            exact (ih _).bind fun _ => trivial
          · simp

/-- Decompressing any bytes fails only because they are damaged. -/
theorem failsDamaged_gunzip (bytes : List UInt8) :
    FailsDamaged (gunzip bytes) :=
  failsDamaged_readMembers _ bytes

end ClusterLog.Compression
