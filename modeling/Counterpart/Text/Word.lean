import Counterpart.Text.Category

/-!
Word characters: letters, numerals of every kind and the underscore.
-/
namespace Counterpart

def CodePoint.isWord (c : CodePoint) : Bool :=
  if c.val < 128 then c.isAsciiLetter || c.isAsciiDigit || c == '_'
  else c ≠ CodePoint.absent && (c.category.isLetter || c.category.isNumber)

/-- The text with every code point that is no word character replaced by an underscore. -/
def Text.identifier (t : Text) : Text :=
  t.map fun c => if c.isWord then c else '_'

def Text.isNamePart : Text → Bool
  | [] => false
  | c :: rest => (c.isAsciiLetter || c == '_') && rest.all (·.isWord)

def Text.isSymbol (t : Text) : Bool :=
  ((Text.dotted t).splitAt '.').all Text.isNamePart

end Counterpart
