/-!
Properties of numbers that stay the same over runs. A table of runs is kept with the start of each run, in order,
and a number belongs to the last run that does not start after it.
-/
namespace Counterpart

def liesIn (ranges : List (Nat × Nat)) (n : Nat) : Bool := ranges.any fun (low, high) => low ≤ n && n ≤ high

abbrev Runs (α : Type) := Array (Nat × α)

namespace Runs

def ofLengths {α : Type} (start : Nat) : List (α × Nat) → List (Nat × α)
  | [] => []
  | (a, length) :: rest => (start, a) :: ofLengths (start + length) rest

def place {α : Type} (runs : Runs α) (n low high : Nat) : Nat :=
  if high ≤ low + 1 then low
  else
    let middle := (low + high) / 2
    match runs[middle]? with
    | some (start, _) => if start ≤ n then place runs n middle high else place runs n low middle
    | none => low
termination_by high - low

def at? {α : Type} (runs : Runs α) (n : Nat) : Option α := (runs[place runs n 0 runs.size]?).map (·.2)

def parts (isSign : Char → Bool) (t : List Char) : List (Char × List Char) :=
  (t.foldr (fun c (text, read) => if isSign c then ([], (c, text) :: read) else (c :: text, read))
    (([], []) : List Char × List (Char × List Char))).2

def count (digits : List Char) : Nat :=
  if digits.isEmpty then 1 else digits.foldl (fun n c => n * 10 + (c.toNat - 48)) 0

/-- The runs of a table, in which a sign counts properties from `A` on and a number after it is a length. -/
def ofTable {α : Type} (property : Nat → α) (table : String) : Runs α :=
  (ofLengths 0 ((parts (!·.isDigit) table.toList).map fun (sign, digits) =>
    (property (sign.toNat - 65), count digits))).toArray

end Runs
end Counterpart
