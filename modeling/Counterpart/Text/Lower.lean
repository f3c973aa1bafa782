import Counterpart.Text.Case
import Counterpart.Text.Ranges

/-!
Lower case by the full mapping of Unicode. A capital sigma becomes the final one at the end of a word:
when a letter with case stands before it and none after it, marks and the like between them apart.
-/
namespace Counterpart

def lowerRuns : List (Nat × Nat × Nat × Nat) := Ranges.moved (Tables.named "lower")

def CodePoint.lower (c : CodePoint) : Text :=
  if c.val < 128 then
    if 65 ≤ c.val && c.val ≤ 90 then [CodePoint.ofNat (c.val + 32)] else [c]
  else if c.val == 0x130 then [0x69, 0x307]
  else match lowerRuns.find? fun (low, high, step, _) =>
      low ≤ c.val && c.val ≤ high && (c.val - low) % step == 0 with
    | some (low, _, _, image) => [CodePoint.ofNat (image + (c.val - low))]
    | none => [c]

/-- A letter with case comes first in a text, apart from what does not interrupt a word. -/
def Text.meetsCased (t : Text) : Bool := (t.dropWhile (·.isCaseIgnorable)).head?.any (·.isCased)

def Text.lowerOne (before : Text) (c : CodePoint) (rest : Text) : Text :=
  if c.val == 0x3A3 && meetsCased before && !meetsCased rest then [0x3C2] else c.lower

def Text.lowerAfter : Text → Text → Text
  | _, [] => []
  | before, c :: rest => lowerOne before c rest ++ lowerAfter (c :: before) rest

def Text.lower (t : Text) : Text := lowerAfter [] t

end Counterpart
