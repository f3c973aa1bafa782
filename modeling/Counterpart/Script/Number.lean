import Counterpart.Number.Numeral
import Counterpart.Script.Tree

/-!
Numbers: integers of any size, floating-point numbers, and numbers with an imaginary part. Operators on two
kinds of number work on the wider kind.
-/
namespace Counterpart

variable (d a : Double) (x : Float × Float) (i : Int) (b : Double) (y : Float × Float)

namespace Double

def toFloat : Float := Float.ofBits d.bits

def ofFloat (f : Float) : Double := ⟨f.toBits⟩

def compare? : Option Ordering :=
  match a.parts, b.parts with
  | .notANumber, _ | _, .notANumber => none
  | _, _ =>
    if a.equals b then some .eq else if a.toFloat < b.toFloat then some .lt else some .gt

def compareInt? : Option Ordering :=
  match d.parts with
  | .notANumber => none
  | .infinite negative => some (if negative then .lt else .gt)
  | .finite negative m e =>
    let size : Int := (if negative then -1 else 1) * m
    some (if e ≥ 0 then compare (size * 2 ^ e.toNat) i else compare size (i * 2 ^ (-e).toNat))

def isNegative : Bool := d.bits.toNat ≥ 2 ^ 63

def floorDivide : Double × Double :=
  let x := a.toFloat
  let y := b.toFloat
  let quotient := x / y
  let exact := match a.parts, b.parts with
    | .finite s m e, .finite t n k =>
      let least := min e k
      let p : Int := (if s then -1 else 1) * m * 2 ^ (e - least).toNat
      let q : Int := (if t then -1 else 1) * n * 2 ^ (k - least).toNat
      if q = 0 then none
      else
        let rest := p.fmod q
        let shown (i : Int) : Option Double :=
          if least ≥ 0 then Double.nearest? (decide (i < 0)) (i.natAbs * 2 ^ least.toNat) 1
          else Double.nearest? (decide (i < 0)) i.natAbs (2 ^ (-least).toNat)
        match Double.ofInt? (p.fdiv q), shown rest with
        | some whole, some left =>
          let zero := if s = t then Double.zero else Double.zero.negated
          some (if whole.isZero then zero else whole,
            if rest = 0 then (if t then Double.zero.negated else Double.zero) else left)
        | _, _ => none
    | .finite s m _, .infinite t =>
      if m = 0 || s = t then some (if s = t then Double.zero else Double.zero.negated, (⟨a.bits⟩ : Double))
      else some ((Double.ofInt? (-1)).getD Double.zero, b)
    | _, _ => none
  exact.getD (ofFloat quotient.floor, notANumber)

def hypot : Double :=
  match a.parts, b.parts with
  | .infinite _, _ | _, .infinite _ => infinity false
  | .finite _ m e, .finite _ n k =>
    let least := min e k
    let square := (m * 2 ^ (e - least).toNat) ^ 2 + (n * 2 ^ (k - least).toNat) ^ 2
    -- the root with enough places, and one more bit that tells whether anything is left
    let wide := square * 4 ^ 64
    let root := wide.sqrt
    let num := 2 * root + (if root * root = wide then 0 else 1)
    let found := if least ≥ 0 then nearest? false (num * 2 ^ least.toNat) (2 ^ 65)
      else nearest? false num (2 ^ (65 + (-least).toNat))
    found.getD (infinity false)
  | _, _ => notANumber

end Double

namespace Script

inductive Number where
  | int (i : Int)
  | real (d : Double)
  | complex (re im : Double)

inductive ArithmeticFault where
  | zeroDivision (message : Text)
  | overflow (message : Text)
  | value (message : Text)
  | unsupported

namespace Number

def tooLarge : ArithmeticFault := .overflow "int too large to convert to float"

def toReal : Number → Except ArithmeticFault Double
  | .int i => (Double.ofInt? i).elim (.error tooLarge) .ok
  | .real d => .ok d
  | .complex .. => .error .unsupported

def toComplex : Number → Except ArithmeticFault (Double × Double)
  | .complex re im => .ok (re, im)
  | n => do return (← n.toReal, Double.zero)

def equals : Number → Number → Bool
  | .int i, .int j => i == j
  | .real d, .real e => d.equals e
  | .int i, .real d | .real d, .int i => d.equalsInt i
  | .complex a b, .complex c d => a.equals c && b.equals d
  | .complex a b, .real d | .real d, .complex a b => b.isZero && a.equals d
  | .complex a b, .int i | .int i, .complex a b => b.isZero && a.equalsInt i

def compare? : Number → Number → Option (Option Ordering)
  | .int i, .int j => some (some (compare i j))
  | .real d, .real e => some (d.compare? e)
  | .real d, .int i => some (d.compareInt? i)
  | .int i, .real d => some ((d.compareInt? i).map Ordering.swap)
  | _, _ => none

def quotient (j : Int) : Except ArithmeticFault Double :=
  if j = 0 then .error (.zeroDivision "division by zero")
  else
    (Double.nearest? (decide (i < 0) != decide (j < 0)) i.natAbs j.natAbs).elim
      (.error (.overflow "integer division result too large for a float")) .ok

def bitwise (f : Bool → Bool → Bool) (i j : Int) : Int :=
  let plain (i : Int) : Bool × Nat := if i < 0 then (true, (-i - 1).toNat) else (false, i.toNat)
  let (s, m) := plain i
  let (t, n) := plain j
  let sign := f s t
  let bits := Nat.bitwise (fun a b => f (a != s) (b != t) != sign) m n
  if sign then -(bits : Int) - 1 else bits

abbrev Computed := Except ArithmeticFault Number

def unlessZero (isZero : Bool) (message : Text) (n : Number) : Computed :=
  if isZero then .error (.zeroDivision message) else .ok n

def checkedReal (finite : Bool) (f : Float) (message : Text) : Computed :=
  if finite && f.isInf then .error (.overflow message) else .ok (.real (Double.ofFloat f))

def product : Float × Float := (x.1 * y.1 - x.2 * y.2, x.1 * y.2 + x.2 * y.1)

def complexQuotient : Float × Float :=
  let (p, q) := x
  let (r, s) := y
  if s.abs ≤ r.abs then
    let ratio := s / r
    let size := r + s * ratio
    ((p + q * ratio) / size, (q - p * ratio) / size)
  else
    let ratio := r / s
    let size := r * ratio + s
    ((p * ratio + q) / size, (q * ratio - p) / size)

def wholePower : Nat → Float × Float → Float × Float → Nat → Float × Float
  | 0, result, _, _ => result
  | fuel + 1, result, square, n =>
    if n = 0 then result
    else wholePower fuel (if n % 2 = 1 then product result square else result) (product square square) (n / 2)

def powComplex (x y : Double × Double) : Computed :=
  let (a, b) := (x.1.toFloat, x.2.toFloat)
  let (c, d) := (y.1.toFloat, y.2.toFloat)
  let made (z : Float × Float) : Computed :=
    if (z.1.isInf || z.2.isInf) && a.isFinite && b.isFinite && c.isFinite && d.isFinite then
      .error (.overflow "complex exponentiation")
    else .ok (.complex (.ofFloat z.1) (.ofFloat z.2))
  if y.1.isZero && y.2.isZero then made (1, 0)
  else if x.1.isZero && x.2.isZero && (!y.2.isZero || y.1.isNegative) then
    .error (.zeroDivision "0.0 to a negative or complex power")
  else if y.2.isZero && c.floor == c && c.abs ≤ 100 then
    let n := c.abs.toUInt64.toNat
    let size := wholePower 8 (1, 0) (a, b) n
    made (if c < 0 then complexQuotient (1, 0) size else size)
  else if x.1.isZero && x.2.isZero then made (0, 0)
  else
    let length := (x.1.hypot x.2).toFloat
    let angle := Float.atan2 b a
    let size := length.pow c
    let phase := angle * c
    let (size, phase) := if y.2.isZero then (size, phase) else (size / (angle * d).exp, phase + d * length.log)
    made (size * phase.cos, size * phase.sin)

def powReal : Computed :=
  if a.isZero && b.isNegative && !b.isZero then .error (.zeroDivision "0.0 cannot be raised to a negative power")
  else if a.isNegative && !a.isZero && a.toFloat.isFinite && b.toFloat.isFinite && b.toFloat.floor != b.toFloat then
    powComplex (a, Double.zero) (b, Double.zero)
  else
    let x := a.toFloat
    let y := b.toFloat
    checkedReal (x.isFinite && y.isFinite) (x.pow y) "(34, 'Numerical result out of range')"

def onInts (op : BinaryOp) (i j : Int) : Computed :=
  match op with
  | .add => .ok (.int (i + j))
  | .subtract => .ok (.int (i - j))
  | .multiply => .ok (.int (i * j))
  | .divide => (quotient i j).map .real
  | .floorDivide => unlessZero (j = 0) "integer division or modulo by zero" (.int (i.fdiv j))
  | .modulo => unlessZero (j = 0) "integer modulo by zero" (.int (i.fmod j))
  | .power =>
    if 0 ≤ j then .ok (.int (i ^ j.toNat)) else do powReal (← toReal (.int i)) (← toReal (.int j))
  | .shiftLeft =>
    if j < 0 then .error (.value "negative shift count") else .ok (.int (i * 2 ^ j.toNat))
  | .shiftRight =>
    if j < 0 then .error (.value "negative shift count") else .ok (.int (i.fdiv (2 ^ j.toNat)))
  | .bitAnd => .ok (.int (bitwise (· && ·) i j))
  | .bitXor => .ok (.int (bitwise (· != ·) i j))
  | .bitOr => .ok (.int (bitwise (· || ·) i j))
  | .matrixMultiply => .error .unsupported

def onReals (op : BinaryOp) (a b : Double) : Computed :=
  let x := a.toFloat
  let y := b.toFloat
  match op with
  | .add => .ok (.real (a.add b))
  | .subtract => .ok (.real (a.add b.negated))
  | .multiply => .ok (.real (.ofFloat (x * y)))
  | .divide => unlessZero b.isZero "float division by zero" (.real (.ofFloat (x / y)))
  | .floorDivide => unlessZero b.isZero "float floor division by zero" (.real (a.floorDivide b).1)
  | .modulo => unlessZero b.isZero "float modulo" (.real (a.floorDivide b).2)
  | .power => powReal a b
  | _ => .error .unsupported

def onComplexes (op : BinaryOp) (x y : Double × Double) : Computed :=
  let (a, b) := x
  let (c, d) := y
  let (p, q, r, s) := (a.toFloat, b.toFloat, c.toFloat, d.toFloat)
  match op with
  | .add => .ok (.complex (a.add c) (b.add d))
  | .subtract => .ok (.complex (a.add c.negated) (b.add d.negated))
  | .multiply => .ok (.complex (.ofFloat (p * r - q * s)) (.ofFloat (p * s + q * r)))
  | .divide =>
    let (u, v) := complexQuotient (p, q) (r, s)
    unlessZero (c.isZero && d.isZero) "complex division by zero" (.complex (.ofFloat u) (.ofFloat v))
  | .power => powComplex x y
  | _ => .error .unsupported

def apply (op : BinaryOp) (m n : Number) : Computed :=
  match m, n with
  | .int i, .int j => onInts op i j
  | .complex .., _ | _, .complex .. => do onComplexes op (← m.toComplex) (← n.toComplex)
  | _, _ =>
    match op with
    | .shiftLeft | .shiftRight | .bitAnd | .bitXor | .bitOr | .matrixMultiply => .error .unsupported
    | _ => do onReals op (← m.toReal) (← n.toReal)

def negated : Number → Number
  | .int i => .int (-i)
  | .real d => .real d.negated
  | .complex re im => .complex re.negated im.negated

/-! ## Hashes -/

def hashPrime : Nat := 2 ^ 61 - 1

def fixHash (h : Int) : Int := if h = -1 then -2 else h

def hashInt : Int :=
  let rest : Int := (i.natAbs % hashPrime : Nat)
  fixHash (if i < 0 then -rest else rest)

def wrapHash (h : Int) : Int := Int.bmod h (2 ^ 64)

def hashReal : Int :=
  match d.parts with
  | .notANumber => 0
  | .infinite negative => if negative then -314159 else 314159
  | .finite negative m e =>
    let shift := (e % 61).toNat
    let rest : Int := ((m % hashPrime * 2 ^ shift) % hashPrime : Nat)
    fixHash (if negative then -rest else rest)

def hash : Number → Int
  | .int i => hashInt i
  | .real d => hashReal d
  | .complex re im => fixHash (wrapHash (hashReal re + 1000003 * hashReal im))

end Number

def hashRow (hashes : List Int) : Int :=
  let modulus : Nat := 2 ^ 64
  let p1 : Nat := 11400714785074694791
  let p2 : Nat := 14029467366897019727
  let p5 : Nat := 2870177450012600261
  let step (acc : Nat) (h : Int) : Nat :=
    let lane := (h % (modulus : Int)).toNat
    let mixed := (acc + lane * p2) % modulus
    let turned := (mixed * 2 ^ 31 + mixed / 2 ^ 33) % modulus
    turned * p1 % modulus
  let acc := hashes.foldl step p5
  let last := (acc + (hashes.length ^^^ (p5 ^^^ 3527539))) % modulus
  if last = modulus - 1 then 1546275796 else Number.wrapHash last

end Script
end Counterpart
