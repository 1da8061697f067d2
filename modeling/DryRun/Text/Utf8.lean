import DryRun.Text.Word

/-!
# UTF-8

`Utf8.decode` reads bytes as UTF-8 and accepts no other encoding of a character than its shortest
one, and no surrogates. It stops at the first byte sequence that cannot be read; the error names
the bytes that are at fault, which are those up to the first one that does not fit.
-/

set_option autoImplicit false

namespace DryRun.Utf8

/-- What is wrong with some bytes. -/
inductive Fault where
  /-- No character begins with this byte. -/
  | start
  /-- A byte stands where a continuation byte has to stand. -/
  | continuation
  /-- The bytes end inside of a character. -/
  | truncated
  deriving DecidableEq, Repr

/-- Bytes that cannot be read. -/
structure DecodingError where
  fault : Fault
  byte : Nat
  position : Nat
  length : Nat
  deriving DecidableEq, Repr

def Fault.message : Fault → String
  | .start => "invalid start byte"
  | .continuation => "invalid continuation byte"
  | .truncated => "unexpected end of data"

def DecodingError.message (e : DecodingError) : Text :=
  let first := Nat.toDigits 10 e.position
  let place :=
    if e.length = 1 then
      "byte 0x".toList ++ Text.hexDigits 2 e.byte ++ " in position ".toList ++ first
    else
      "bytes in position ".toList ++ first ++ '-' ::
        Nat.toDigits 10 (e.position + e.length - 1)
  "'utf-8' codec can't decode ".toList ++ place ++ ": ".toList ++ e.fault.message.toList

/-- How a character begins: how many bytes follow the first one, what that one contributes, and the
range of the second byte. -/
structure Lead where
  count : Nat
  /-- The bits of the first byte that belong to the character. -/
  bits : Nat
  low : Nat
  high : Nat

def lead? (b : Nat) : Option Lead :=
  if b < 0x80 then some ⟨0, b, 0, 0⟩
  else if b < 0xc2 then none
  else if b < 0xe0 then some ⟨1, b - 0xc0, 0x80, 0xbf⟩
  else if b < 0xf0 then
    some ⟨2, b - 0xe0, if b = 0xe0 then 0xa0 else 0x80, if b = 0xed then 0x9f else 0xbf⟩
  else if b < 0xf5 then
    some ⟨3, b - 0xf0, if b = 0xf0 then 0x90 else 0x80, if b = 0xf4 then 0x8f else 0xbf⟩
  else none

/-- Where the reader stands: before a character, or inside one. -/
inductive State where
  | between
  /-- Inside a character: its first byte and position, how many bytes of it have been read, how
  many are to come, the bits so far and the range of the next byte. -/
  | inside (first position read toCome bits low high : Nat)

/-- The text of the bytes, read from a state on. -/
def decodeFrom (position : Nat) : State → List UInt8 → Except DecodingError Text
  | .between, [] => .ok []
  | .inside first start read _ _ _ _, [] => .error ⟨.truncated, first, start, read⟩
  | .between, b :: rest =>
    match lead? b.toNat with
    | none => .error ⟨.start, b.toNat, position, 1⟩
    | some ⟨0, bits, _, _⟩ => (decodeFrom (position + 1) .between rest).map (Char.ofNat bits :: ·)
    | some ⟨count, bits, low, high⟩ =>
      decodeFrom (position + 1) (.inside b.toNat position 1 count bits low high) rest
  | .inside first start read toCome bits low high, b :: rest =>
    -- Only the byte after the first has a narrowed range, which rules out overlong forms.
    if b.toNat < low || high < b.toNat then .error ⟨.continuation, first, start, read⟩
    else
      let bits := bits * 64 + (b.toNat - 0x80)
      if toCome ≤ 1 then (decodeFrom (position + 1) .between rest).map (Char.ofNat bits :: ·)
      else
        decodeFrom (position + 1) (.inside first start (read + 1) (toCome - 1) bits 0x80 0xbf) rest

def decode (bytes : List UInt8) : Except DecodingError Text := decodeFrom 0 .between bytes

end DryRun.Utf8
