import Counterpart.Text.Digit
import Counterpart.Text.Tables

/-!
Code points that stand for numbers: digits that are raised, lowered or in circles, fractions, numbers in the
letters of a script, and ideographs.
-/
namespace Counterpart

/-- Digits that make no numerals: where a row of them starts and ends, and the value of its first. -/
def digitRows : List (Nat × Nat × Nat) :=
  [(0xB2, 0xB3, 2), (0xB9, 0xB9, 1), (0x1369, 0x1371, 1), (0x19DA, 0x19DA, 1), (0x2070, 0x2070, 0),
   (0x2074, 0x2079, 4), (0x2080, 0x2089, 0), (0x2460, 0x2468, 1), (0x2474, 0x247C, 1), (0x2488, 0x2490, 1),
   (0x24EA, 0x24EA, 0), (0x24F5, 0x24FD, 1), (0x24FF, 0x24FF, 0), (0x2776, 0x277E, 1), (0x2780, 0x2788, 1),
   (0x278A, 0x2792, 1), (0x10A40, 0x10A43, 1), (0x10E60, 0x10E68, 1), (0x11052, 0x1105A, 1),
   (0x1F100, 0x1F10A, 0)]

/-- The value of a digit, also of one that makes no numerals. The last row has its zero twice. -/
def CodePoint.digitSign? (c : CodePoint) : Option Nat :=
  c.digitValue?.or <|
    (digitRows.find? fun (low, high, _) => low ≤ c.val && c.val ≤ high).map fun (low, _, first) =>
      if low = 0x1F100 then c.val - low - 1 else first + (c.val - low)

def Numeric.ofWritten (t : String) : Int × Nat :=
  match t.splitOn "/" with
  | [a, b] => (a.toInt?.getD 0, b.toNat?.getD 1)
  | _ => (t.toInt?.getD 0, 1)

/-- The rows of other numbers: first and last code point, value of the first, and step. What is written of a row is the
distance from the end of the row before, the length if it has more than one, the value of the first, and the step between
values if it is not one. -/
def Numeric.rows (_ : Unit) : List (Nat × Nat × (Int × Nat) × (Int × Nat)) :=
  ((Tables.named "number").splitOn " ").foldl (fun (stop, rows) w =>
    match w.splitOn ":" with
    | place :: value :: step =>
      let (gap, more) := match place.splitOn "+" with
        | [gap, more] => (gap.toNat?.getD 0, more.toNat?.getD 0)
        | _ => (place.toNat?.getD 0, 0)
      let step := (step.head?.map ofWritten).getD (1, 1)
      (stop + gap + more, rows ++ [(stop + gap, stop + gap + more, ofWritten value, step)])
    | _ => (stop, rows)) (0, []) |>.2

def CodePoint.numeric? (c : CodePoint) : Option (Int × Nat) :=
  match c.digitSign? with
  | some n => some (n, 1)
  | none =>
    if c.val < 128 then none
    else
      ((Numeric.rows ()).find? fun (low, high, _, _) => low ≤ c.val && c.val ≤ high).map
        fun (low, _, (a, b), (d, e)) => (a * e + d * b * (c.val - low : Nat), b * e)

end Counterpart
