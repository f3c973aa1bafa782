import Counterpart.Text.Units

/-!
Binary floating point by its bits. A finite number is a significand times a power of two; rounding a
quotient takes the nearest such number and, of two equally near, the one with an even significand.
-/
namespace Counterpart

structure BinaryFormat where
  precision : Nat
  leastExponent : Int
  special : Nat

def BinaryFormat.double : BinaryFormat := ⟨53, -1074, 2047⟩

def BinaryFormat.single : BinaryFormat := ⟨24, -149, 255⟩

inductive FloatParts where
  | notANumber
  | infinite (negative : Bool)
  | finite (negative : Bool) (significand : Nat) (exponent : Int)
  deriving DecidableEq, Repr

namespace BinaryFormat

def fractionBits (f : BinaryFormat) : Nat := f.precision - 1

def parts (f : BinaryFormat) (bits : Nat) : FloatParts :=
  let fraction := bits % 2 ^ f.fractionBits
  let biased := bits / 2 ^ f.fractionBits % (f.special + 1)
  let negative := bits / 2 ^ f.fractionBits / (f.special + 1) % 2 == 1
  if biased = f.special then if fraction = 0 then .infinite negative else .notANumber
  else if biased = 0 then .finite negative fraction f.leastExponent
  else .finite negative (fraction + 2 ^ f.fractionBits) (f.leastExponent + (biased - 1))

def signBit (f : BinaryFormat) (negative : Bool) : Nat :=
  if negative then 2 ^ f.fractionBits * (f.special + 1) else 0

def infinity (f : BinaryFormat) (negative : Bool) : Nat :=
  f.signBit negative + f.special * 2 ^ f.fractionBits

def roundQuotient (num den : Nat) : Nat :=
  let q := num / den
  let twice := 2 * (num % den)
  if twice < den then q else if den < twice then q + 1 else if q % 2 = 0 then q else q + 1

def nearest? (f : BinaryFormat) (negative : Bool) (num den : Nat) : Option Nat :=
  if num = 0 || den = 0 then some (f.signBit negative)
  else
    let spread : Int := (Nat.log2 num : Int) - Nat.log2 den
    -- the power of two just below the quotient
    let top : Int :=
      let reaches := if spread ≥ 0 then den * 2 ^ spread.toNat ≤ num else den ≤ num * 2 ^ (-spread).toNat
      if reaches then spread else spread - 1
    let exponent := max f.leastExponent (top - f.fractionBits)
    let significand :=
      if exponent ≥ 0 then roundQuotient num (den * 2 ^ exponent.toNat)
      else roundQuotient (num * 2 ^ (-exponent).toNat) den
    -- adding the fields lets a significand that rounded up to the next power carry over
    let fields :=
      if significand < 2 ^ f.fractionBits then significand
      else (exponent - f.leastExponent).toNat * 2 ^ f.fractionBits + significand
    if fields < f.special * 2 ^ f.fractionBits then some (f.signBit negative + fields) else none

end BinaryFormat

structure Double where
  bits : UInt64
  deriving DecidableEq, Repr

namespace Double

def parts (d : Double) : FloatParts := BinaryFormat.double.parts d.bits.toNat

def zero : Double := ⟨0⟩

def infinity (negative : Bool) : Double := ⟨UInt64.ofNat (BinaryFormat.double.infinity negative)⟩

def notANumber : Double := ⟨0x7FF8000000000000⟩

def negated (d : Double) : Double := ⟨d.bits ^^^ 0x8000000000000000⟩

def nearest? (negative : Bool) (num den : Nat) : Option Double :=
  (BinaryFormat.double.nearest? negative num den).map fun bits => ⟨UInt64.ofNat bits⟩

def ofInt? (i : Int) : Option Double := nearest? (decide (i < 0)) i.natAbs 1

/-- The number nearest to `digits * 10 ^ exponent`, an infinity when it is too large. -/
def ofDecimal (negative : Bool) (digits : Nat) (exponent : Int) : Double :=
  let length : Int := (Nat.toDigits 10 digits).length
  if digits = 0 || exponent + length < -400 then (nearest? negative 0 1).getD zero
  else if exponent + length > 400 then infinity negative
  else
    (if exponent ≥ 0 then nearest? negative (digits * 10 ^ exponent.toNat) 1
     else nearest? negative digits (10 ^ (-exponent).toNat)).getD (infinity negative)

def truncate? (d : Double) : Option Int :=
  match d.parts with
  | .finite negative m e =>
    let size : Nat := if e ≥ 0 then m * 2 ^ e.toNat else m / 2 ^ (-e).toNat
    some (if negative then -(size : Int) else size)
  | _ => none

def equalsInt (d : Double) (i : Int) : Bool :=
  match d.parts with
  | .finite negative m e =>
    let sign : Int := if negative then -1 else 1
    if e ≥ 0 then sign * m * 2 ^ e.toNat == i else sign * m == i * 2 ^ (-e).toNat
  | _ => false

/-- Equality of numbers: the two zeros are equal, and what is not a number equals nothing. -/
def equals (a b : Double) : Bool :=
  match a.parts, b.parts with
  | .notANumber, _ | _, .notANumber => false
  | .finite _ 0 _, .finite _ 0 _ => true
  | _, _ => a.bits == b.bits

def isZero (d : Double) : Bool :=
  match d.parts with
  | .finite _ 0 _ => true
  | _ => false

def floor? (d : Double) : Option Int :=
  match d.parts with
  | .finite negative m e =>
    let size : Int := (if negative then -1 else 1) * m
    some (if e ≥ 0 then size * 2 ^ e.toNat else size.fdiv (2 ^ (-e).toNat))
  | _ => none

/-- The sum, rounded to the nearest number. Zeros of one sign add up to that zero, and every other sum that
is zero has no sign. -/
def add (a b : Double) : Double :=
  match a.parts, b.parts with
  | .notANumber, _ | _, .notANumber => notANumber
  | .infinite x, .infinite y => if x = y then infinity x else notANumber
  | .infinite x, _ => infinity x
  | _, .infinite y => infinity y
  | .finite x m e, .finite y n k =>
    let least := min e k
    let scaled (negative : Bool) (size : Nat) (exponent : Int) : Int :=
      (if negative then -1 else 1) * size * 2 ^ (exponent - least).toNat
    let sum := scaled x m e + scaled y n k
    let negative := if sum = 0 then x && y else decide (sum < 0)
    (if least ≥ 0 then nearest? negative (sum.natAbs * 2 ^ least.toNat) 1
     else nearest? negative sum.natAbs (2 ^ (-least).toNat)).getD (infinity negative)

/-- The bits of the number of a format that is nearest to `m * 2 ^ e`; `none` when it is too large. -/
def narrowed? (f : BinaryFormat) (negative : Bool) (m : Nat) (e : Int) : Option Nat :=
  if e ≥ 0 then f.nearest? negative (m * 2 ^ e.toNat) 1 else f.nearest? negative m (2 ^ (-e).toNat)

def ofScaled (negative : Bool) (m : Nat) (e : Int) : Double :=
  (if e ≥ 0 then nearest? negative (m * 2 ^ e.toNat) 1 else nearest? negative m (2 ^ (-e).toNat)).getD zero

/-- The bits of the nearest number of 32 bits; `none` when a finite number becomes too large. What is
not a number keeps its sign and the leading bits of its fraction, and is made quiet. -/
def toSingle? (d : Double) : Option UInt32 :=
  match d.parts with
  | .notANumber =>
    let n := d.bits.toNat
    some (UInt32.ofNat (n / 2 ^ 63 * 2 ^ 31 + 0x7FC00000 + n % 2 ^ 51 / 2 ^ 29))
  | .infinite negative => some (UInt32.ofNat (BinaryFormat.single.infinity negative))
  | .finite negative m e => (narrowed? .single negative m e).map UInt32.ofNat

def ofSingle (bits : UInt32) : Double :=
  let n := bits.toNat
  match BinaryFormat.single.parts n with
  | .notANumber => ⟨UInt64.ofNat (n / 2 ^ 31 * 2 ^ 63 + 0x7FF8000000000000 + n % 2 ^ 22 * 2 ^ 29)⟩
  | .infinite negative => infinity negative
  | .finite negative m e => ofScaled negative m e

end Double
end Counterpart
