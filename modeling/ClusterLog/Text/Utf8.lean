/-!
# UTF-8

Files are sequences of bytes.  They are read as UTF-8; where the bytes are no UTF-8, each longest
beginning of a valid sequence becomes one replacement character, and reading goes on after it.
-/

namespace ClusterLog.Text

/-- The character that stands for bytes that are no UTF-8. -/
def replacementChar : Char := Char.ofNat 0xFFFD

/-- Whether a byte continues a sequence. -/
def isContinuation (byte : UInt8) : Bool :=
  0x80 ≤ byte && byte ≤ 0xBF

/-- Whether a byte may follow the lead byte of a sequence of three: overlong forms and surrogates
are excluded. -/
def isSecondOfThree (lead byte : UInt8) : Bool :=
  if lead == 0xE0 then 0xA0 ≤ byte && byte ≤ 0xBF
  else if lead == 0xED then 0x80 ≤ byte && byte ≤ 0x9F
  else isContinuation byte

/-- Whether a byte may follow the lead byte of a sequence of four: overlong forms and code points
beyond the last plane are excluded. -/
def isSecondOfFour (lead byte : UInt8) : Bool :=
  if lead == 0xF0 then 0x90 ≤ byte && byte ≤ 0xBF
  else if lead == 0xF4 then 0x80 ≤ byte && byte ≤ 0x8F
  else isContinuation byte

/-- Append the six payload bits of a continuation byte. -/
def appendBits (value : Nat) (byte : UInt8) : Nat :=
  value * 64 + (byte.toNat - 0x80)

/-- Read bytes as UTF-8, replacing what is not. -/
def decodeUtf8 : List UInt8 → List Char
  | [] => []
  | b0 :: rest =>
    if b0 < 0x80 then
      Char.ofNat b0.toNat :: decodeUtf8 rest
    else if 0xC2 ≤ b0 && b0 ≤ 0xDF then
      match rest with
      | b1 :: rest1 =>
        if isContinuation b1 then
          Char.ofNat (appendBits (b0.toNat - 0xC0) b1) :: decodeUtf8 rest1
        else
          replacementChar :: decodeUtf8 (b1 :: rest1)
      | [] => [replacementChar]
    else if 0xE0 ≤ b0 && b0 ≤ 0xEF then
      match rest with
      | b1 :: rest1 =>
        if isSecondOfThree b0 b1 then
          match rest1 with
          | b2 :: rest2 =>
            if isContinuation b2 then
              Char.ofNat (appendBits (appendBits (b0.toNat - 0xE0) b1) b2) :: decodeUtf8 rest2
            else
              replacementChar :: decodeUtf8 (b2 :: rest2)
          | [] => [replacementChar]
        else
          replacementChar :: decodeUtf8 (b1 :: rest1)
      | [] => [replacementChar]
    else if 0xF0 ≤ b0 && b0 ≤ 0xF4 then
      match rest with
      | b1 :: rest1 =>
        if isSecondOfFour b0 b1 then
          match rest1 with
          | b2 :: rest2 =>
            if isContinuation b2 then
              match rest2 with
              | b3 :: rest3 =>
                if isContinuation b3 then
                  Char.ofNat (appendBits (appendBits (appendBits (b0.toNat - 0xF0) b1) b2) b3) ::
                    decodeUtf8 rest3
                else
                  replacementChar :: decodeUtf8 (b3 :: rest3)
              | [] => [replacementChar]
            else
              replacementChar :: decodeUtf8 (b2 :: rest2)
          | [] => [replacementChar]
        else
          replacementChar :: decodeUtf8 (b1 :: rest1)
      | [] => [replacementChar]
    else
      replacementChar :: decodeUtf8 rest

/-- Write a text as UTF-8. -/
def encodeUtf8 (text : List Char) : List UInt8 :=
  text.flatMap String.utf8EncodeChar

end ClusterLog.Text
