import Counterpart.Number.Double

/-!
The decimal text of a floating-point number: the fewest digits that read back to it and, of several
such numerals, the nearest.
-/
namespace Counterpart.Double

structure Digits where
  digits : Nat
  place : Int
  deriving DecidableEq, Repr

def decimalExponent (num den : Nat) : Int :=
  if den ≤ num then (Nat.toDigits 10 (num / den)).length - 1
  else
    match (List.range 400).find? fun j => den ≤ num * 10 ^ (j + 1) with
    | some j => -((j : Int) + 1)
    | none => 0

/-- The numeral with `count` digits nearest to `num / den` among those between `low / den` and
`high / den`, the ends included when the interval is `closed`. -/
def candidate? (num low high den : Nat) (closed : Bool) (exponent : Int) (count : Nat) :
    Option Digits :=
  -- the grid of numerals with `count` digits has the step `10 ^ place`
  let place : Int := exponent - count + 1
  let scaleUp (x : Nat) : Nat := if place < 0 then x * 10 ^ (-place).toNat else x
  let unit : Nat := if place ≥ 0 then den * 10 ^ place.toNat else den
  let inside (k : Nat) : Bool :=
    let x := k * unit
    if closed then scaleUp low ≤ x && x ≤ scaleUp high else scaleUp low < x && x < scaleUp high
  let floor := scaleUp num / unit
  let below := inside floor
  let above := inside (floor + 1)
  let chosen :=
    if below && above then some (BinaryFormat.roundQuotient (scaleUp num) unit)
    else if below then some floor
    else if above then some (floor + 1)
    else none
  chosen.map fun k => ⟨k, place⟩

def shortest (significand : Nat) (exponent : Int) : Digits :=
  -- numerator, ends of the rounding interval and denominator in quarters of the last place
  let lowGap : Nat := if significand = 2 ^ 52 && exponent > -1074 then 1 else 2
  let scale : Nat := if exponent ≥ 0 then 2 ^ exponent.toNat else 1
  let den : Nat := if exponent ≥ 0 then 4 else 4 * 2 ^ (-exponent).toNat
  let num := 4 * significand * scale
  let low := (4 * significand - lowGap) * scale
  let high := (4 * significand + 2) * scale
  let closed := significand % 2 == 0
  let top := decimalExponent num den
  ((List.range 17).findSome? fun k => candidate? num low high den closed top (k + 1)).getD
    ⟨BinaryFormat.roundQuotient num den, 0⟩

def trimZeros : Nat → List Char → List Char
  | 0, cs => cs
  | fuel + 1, cs =>
    match cs.getLast?, cs.length with
    | some '0', n + 2 => trimZeros fuel (cs.take (n + 1))
    | _, _ => cs

/-- The text of a number: positional from `0.0001` up to `10 ^ 16` and always with a point, otherwise
with an exponent of at least two digits after its sign. -/
def text (d : Double) : Text :=
  let sign (negative : Bool) : Text := if negative then "-" else []
  match d.parts with
  | .notANumber => "nan"
  | .infinite negative => sign negative ++ "inf"
  | .finite negative 0 _ => sign negative ++ "0.0"
  | .finite negative m e =>
    let found := shortest m e
    let all := Nat.toDigits 10 found.digits
    -- the point stands before the digit of weight `10 ^ (point - 1)`
    let point := found.place + all.length
    let digits : Text := (trimZeros all.length all).map CodePoint.ofChar
    let body : Text :=
      if -4 < point && point ≤ 16 then
        if point ≤ 0 then
          "0." ++ List.replicate (-point).toNat (CodePoint.ofChar '0') ++ digits
        else if digits.length ≤ point.toNat then
          digits ++ List.replicate (point.toNat - digits.length) (CodePoint.ofChar '0') ++ (".0" : Text)
        else digits.take point.toNat ++ ("." : Text) ++ digits.drop point.toNat
      else
        let power := point - 1
        let fraction : Text := if digits.length > 1 then ("." : Text) ++ digits.drop 1 else []
        let size := Text.ofNat power.natAbs
        let padded : Text := if size.length < 2 then "0" ++ size else size
        digits.take 1 ++ fraction ++ (if power < 0 then ("e-" : Text) else "e+") ++ padded
    sign negative ++ body

end Counterpart.Double
