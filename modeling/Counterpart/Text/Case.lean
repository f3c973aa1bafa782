import Counterpart.Text.Category

/-!
Case: which code points are capitals or small letters, and what does not interrupt a word when case is decided.
-/
namespace Counterpart

def capitalSigns : List (Nat × Nat) :=
  [(0x2160, 0x216F), (0x24B6, 0x24CF), (0x1F130, 0x1F149), (0x1F150, 0x1F169), (0x1F170, 0x1F189)]

def smallSigns : List (Nat × Nat) :=
  [(0xAA, 0xAA), (0xBA, 0xBA), (0x2B0, 0x2B8), (0x2C0, 0x2C1), (0x2E0, 0x2E4), (0x345, 0x345), (0x37A, 0x37A),
   (0x1D2C, 0x1D6A), (0x1D78, 0x1D78), (0x1D9B, 0x1DBF), (0x2071, 0x2071), (0x207F, 0x207F), (0x2090, 0x209C),
   (0x2170, 0x217F), (0x24D0, 0x24E9), (0x2C7C, 0x2C7D), (0xA69C, 0xA69D), (0xA770, 0xA770), (0xA7F8, 0xA7F9),
   (0xAB5C, 0xAB5F), (0x10780, 0x10780), (0x10783, 0x10785), (0x10787, 0x107B0), (0x107B2, 0x107BA)]

def innerPunctuation : List Nat :=
  [0x27, 0x2E, 0x3A, 0xB7, 0x387, 0x55F, 0x5F4, 0x2018, 0x2019, 0x2024, 0x2027, 0xFE13, 0xFE52, 0xFE55, 0xFF07,
   0xFF0E, 0xFF1A]

def CodePoint.isUpper (c : CodePoint) : Bool := c.category = .capitalLetter || liesIn capitalSigns c.val

def CodePoint.isLower (c : CodePoint) : Bool := c.category = .smallLetter || liesIn smallSigns c.val

def CodePoint.isCased (c : CodePoint) : Bool := c.isUpper || c.isLower || c.category = .titleLetter

def CodePoint.isCaseIgnorable (c : CodePoint) : Bool :=
  match c.category with
  | .nonspacingMark | .enclosingMark | .format | .modifierLetter | .modifierSymbol => true
  | _ => innerPunctuation.contains c.val

end Counterpart
