import Counterpart.Text.Ranges
import Counterpart.Text.Tables

/-!
Upper case by the full mapping of Unicode: one letter may become several.
-/
namespace Counterpart

def upperRuns : List (Nat × Nat × Nat × Nat) := Ranges.moved (Tables.named "upper")

def upperExpansions : List (Nat × List Nat) :=
  (Ranges.entries (Tables.named "expansion")).map fun t =>
    let (letter, image) := Ranges.halves ':' t
    (Runs.count letter, ((String.ofList image).splitOn ",").map fun n => Runs.count n.toList)

def CodePoint.upper (c : CodePoint) : Text :=
  if c.val < 128 then
    if 97 ≤ c.val && c.val ≤ 122 then [CodePoint.ofNat (c.val - 32)] else [c]
  else match upperExpansions.find? fun (letter, _) => letter == c.val with
    | some (_, image) => image.map CodePoint.ofNat
    | none =>
      match upperRuns.find? fun (low, high, step, _) =>
          low ≤ c.val && c.val ≤ high && (c.val - low) % step == 0 with
      | some (low, _, _, image) => [CodePoint.ofNat (image + (c.val - low))]
      | none => [c]

def Text.upper (t : Text) : Text := t.flatMap CodePoint.upper

def Text.capitalized : Text → Text
  | [] => []
  | c :: rest => c.upper ++ rest

end Counterpart
