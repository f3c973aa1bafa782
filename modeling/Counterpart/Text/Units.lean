import Counterpart.Text.Basic

/-!
UTF-16 in big-endian byte order: how a text travels on the wire. Encoding refuses surrogates;
decoding says where the bytes stop being well formed.
-/
namespace Counterpart

abbrev Bytes := List UInt8

namespace Utf16

inductive Flaw where
  | strayLow
  | strayHigh
  | cutPair
  | oddByte
  deriving DecidableEq, Repr

/-- A flaw and the bytes from `start` up to `stop` that show it. -/
structure DecodeError where
  flaw : Flaw
  start : Nat
  stop : Nat
  first : UInt8
  deriving DecidableEq, Repr

structure EncodeError where
  position : Nat
  code : CodePoint
  deriving DecidableEq, Repr

def unitBytes (unit : Nat) : Bytes := [UInt8.ofNat (unit / 256), UInt8.ofNat (unit % 256)]

def pointBytes (c : CodePoint) : Bytes :=
  if c.val < 0x10000 then unitBytes c.val
  else unitBytes (0xD800 + (c.val - 0x10000) / 0x400) ++ unitBytes (0xDC00 + (c.val - 0x10000) % 0x400)

def encodeFrom (position : Nat) : Text → Except EncodeError Bytes
  | [] => .ok []
  | c :: rest =>
    if c.isSurrogate then .error ⟨position, c⟩
    else (encodeFrom (position + 1) rest).map (pointBytes c ++ ·)

def encode (t : Text) : Except EncodeError Bytes := encodeFrom 0 t

def unitOf (high low : UInt8) : Nat := high.toNat * 256 + low.toNat

def isHigh (unit : Nat) : Bool := 0xD800 ≤ unit && unit < 0xDC00

def isLow (unit : Nat) : Bool := 0xDC00 ≤ unit && unit < 0xE000

def pairPoint (high low : Nat) : CodePoint :=
  CodePoint.ofNat (0x10000 + (high - 0xD800) * 0x400 + (low - 0xDC00))

def decodeFrom (position : Nat) : Bytes → Except DecodeError Text
  | [] => .ok []
  | [a] => .error ⟨.oddByte, position, position + 1, a⟩
  | a :: b :: rest =>
    let unit := unitOf a b
    if isHigh unit then
      match rest with
      | c :: d :: more =>
        if isLow (unitOf c d) then
          (decodeFrom (position + 4) more).map (pairPoint unit (unitOf c d) :: ·)
        else .error ⟨.strayHigh, position, position + 2, a⟩
      | short => .error ⟨.cutPair, position, position + 2 + short.length, a⟩
    else if isLow unit then .error ⟨.strayLow, position, position + 2, a⟩
    else (decodeFrom (position + 2) rest).map (CodePoint.ofNat unit :: ·)

def decode (bytes : Bytes) : Except DecodeError Text := decodeFrom 0 bytes

/-- Joins each pair of surrogates that stand side by side into the code point they encode. -/
def joinPairs : Text → Text
  | [] => []
  | [c] => [c]
  | c :: d :: rest =>
    if isHigh c.val && isLow d.val then pairPoint c.val d.val :: joinPairs rest
    else c :: joinPairs (d :: rest)

def units : Bytes → Text
  | a :: b :: rest => CodePoint.ofNat (unitOf a b) :: units rest
  | _ => []

def encodeUnits (t : Text) : Bytes := t.flatMap pointBytes

end Utf16
end Counterpart
