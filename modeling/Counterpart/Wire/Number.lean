import Counterpart.Value.Convert
import Counterpart.Wire.Builtin

/-!
Numbers as bytes, the most significant byte first, and the bytes found at an offset. An offset below
zero counts from the end of the data.
-/
namespace Counterpart

def bigEndian : Nat → Nat → Bytes
  | 0, _ => []
  | size + 1, n => bigEndian size (n / 256) ++ [UInt8.ofNat (n % 256)]

def ofBigEndian (b : Bytes) : Nat := b.foldl (fun n x => n * 256 + x.toNat) 0

theorem length_bigEndian (size n : Nat) : (bigEndian size n).length = size := by
  induction size generalizing n with
  | zero => rfl
  | succ size ih => simp [bigEndian, ih]

theorem ofBigEndian_append_singleton (b : Bytes) (x : UInt8) :
    ofBigEndian (b ++ [x]) = ofBigEndian b * 256 + x.toNat := by
  simp [ofBigEndian]

theorem ofBigEndian_bigEndian (size n : Nat) (small : n < 256 ^ size) :
    ofBigEndian (bigEndian size n) = n := by
  induction size generalizing n with
  | zero => simp at small; simp [bigEndian, ofBigEndian, small]
  | succ size ih =>
    have quotient : n / 256 < 256 ^ size := by
      apply Nat.div_lt_of_lt_mul
      rw [Nat.pow_succ] at small
      omega
    simp only [bigEndian, ofBigEndian_append_singleton, ih _ quotient]
    have digit : (UInt8.ofNat (n % 256)).toNat = n % 256 := by
      simp [UInt8.toNat_ofNat']
    omega

namespace NumberFormat

def refusal (f : NumberFormat) (i : Int) : LayoutFault :=
  match f with
  | .int64 | .uint64 => .tooLarge
  | .uint16 | .uint32 => if 0 ≤ i ∧ i < 2 ^ 64 then .outsideRange f else .outsideWord
  | _ => if Value.isIndex i then .outsideRange f else .outsideWord

def packInteger (f : NumberFormat) (i : Int) : Except LayoutFault Bytes :=
  match f.bounds? with
  | none => .error .notInteger
  | some (least, greatest) =>
    if least ≤ i ∧ i ≤ greatest then .ok (bigEndian f.size (i % 256 ^ f.size).toNat)
    else .error (f.refusal i)

def packReal? (f : NumberFormat) (d : Double) : Option Bytes :=
  match f with
  | .single => d.toSingle?.map fun bits => bigEndian 4 bits.toNat
  | _ => some (bigEndian 8 d.bits.toNat)

def packFloating (f : NumberFormat) (v : Value) : Except Fault Bytes :=
  match v with
  | .real d =>
    match f.packReal? d with
    | some b => .ok b
    | none => .error .singleOverflow
  | v =>
    match v.integer?.bind Double.ofInt? with
    | none => .error (.layout .notReal)
    | some d =>
      match f.packReal? d with
      | some b => .ok b
      | none => .error (.layout .tooLarge)

def pack (f : NumberFormat) (v : Value) : Except Fault Bytes :=
  match f with
  | .truth => .ok [if v.isTrue then 1 else 0]
  | .single => f.packFloating v
  | .double => f.packFloating v
  | f =>
    match v.integer? with
    | none => .error (.layout .notInteger)
    | some i => (f.packInteger i).mapError .layout

def readInteger (f : NumberFormat) (b : Bytes) : Int :=
  let n : Int := ofBigEndian b
  match f.bounds? with
  | some (_, greatest) => if n ≤ greatest then n else n - 256 ^ f.size
  | none => n

def read (f : NumberFormat) (b : Bytes) : Value :=
  match f with
  | .truth => .truth (b.any (· ≠ 0))
  | .single => .real (.ofSingle (UInt32.ofNat (ofBigEndian b)))
  | .double => .real ⟨UInt64.ofNat (ofBigEndian b)⟩
  | f => .integer (f.readInteger b)

end NumberFormat

namespace Bytes

def window (data : Bytes) (offset : Int) (size : Nat) : Except Fault Bytes :=
  let start := if offset < 0 then offset + data.length else offset
  if !Value.isIndex offset then .error .offsetOverflow
  else if (offset < 0 ∧ 0 < offset + size) ∨ start < 0 ∨ data.length < start + size then
    .error (.layout (.short size data.length offset))
  else .ok ((data.drop start.toNat).take size)

/-- A place between bytes: below zero it counts from the end, and it stays inside the data. -/
def place (data : Bytes) (i : Int) : Nat :=
  if i < 0 then (i + data.length).toNat else min i.toNat data.length

def between (data : Bytes) (start stop : Int) : Bytes :=
  (data.take (data.place stop)).drop (data.place start)

def byteAt (data : Bytes) (index : Int) : Except Fault UInt8 :=
  let position := if index < 0 then index + data.length else index
  if !Value.isIndex index then .error .hugeIndex
  else if position < 0 then .error .noByte
  else
    match data[position.toNat]? with
    | some b => .ok b
    | none => .error .noByte

end Bytes
end Counterpart
