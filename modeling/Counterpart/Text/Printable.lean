import Counterpart.Text.Category

/-!
Printable characters: those that a quoted text shows as they are.
-/
namespace Counterpart

/-- A code point that a quoted text shows as it is: it can be seen, or it is the plain space. -/
def CodePoint.isPrintable (c : CodePoint) : Bool :=
  if c.val < 127 then 32 ≤ c.val else !c.category.isInvisible

end Counterpart
