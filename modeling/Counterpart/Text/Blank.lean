import Counterpart.Text.Basic

/-!
Blank characters, and trimming them from the ends of a text.
-/
namespace Counterpart

def blankRanges : List (Nat × Nat) :=
  [(133, 133), (160, 160), (5760, 5760), (8192, 8202), (8232, 8233), (8239, 8239), (8287, 8287),
   (12288, 12288)]

def CodePoint.isWideBlank (c : CodePoint) : Bool :=
  blankRanges.any fun (low, high) => low ≤ c.val && c.val ≤ high

def CodePoint.isBlank (c : CodePoint) : Bool :=
  (9 ≤ c.val && c.val ≤ 13) || (28 ≤ c.val && c.val ≤ 32) || c.isWideBlank

def CodePoint.isNumeralBlank (c : CodePoint) : Bool :=
  (9 ≤ c.val && c.val ≤ 13) || c.val == 32 || c.isWideBlank

def Text.trim (isEdge : CodePoint → Bool) (t : Text) : Text :=
  (((t.dropWhile isEdge).reverse).dropWhile isEdge).reverse

def Text.strip (t : Text) : Text := Text.trim CodePoint.isBlank t

end Counterpart
