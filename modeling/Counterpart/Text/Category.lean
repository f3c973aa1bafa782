import Counterpart.Text.Basic
import Counterpart.Text.Runs
import Counterpart.Text.Tables

/-!
The general categories of code points: what sort of letter, mark, number, sign or space each of them is.
-/
namespace Counterpart

/-- What sort of character a code point is. -/
inductive Category where
  | control
  | format
  | unassigned
  | privateUse
  | surrogate
  | smallLetter
  | modifierLetter
  | otherLetter
  | titleLetter
  | capitalLetter
  | spacingMark
  | enclosingMark
  | nonspacingMark
  | decimalNumber
  | letterNumber
  | otherNumber
  | connector
  | dash
  | closing
  | finalQuote
  | initialQuote
  | otherPunctuation
  | opening
  | currency
  | modifierSymbol
  | mathSymbol
  | otherSymbol
  | lineSeparator
  | paragraphSeparator
  | space
  deriving DecidableEq, Repr, Inhabited

namespace Category

def codes : List (Category × Text) :=
  [(.control, "Cc"), (.format, "Cf"), (.unassigned, "Cn"), (.privateUse, "Co"), (.surrogate, "Cs"),
   (.smallLetter, "Ll"), (.modifierLetter, "Lm"), (.otherLetter, "Lo"), (.titleLetter, "Lt"), (.capitalLetter, "Lu"),
   (.spacingMark, "Mc"), (.enclosingMark, "Me"), (.nonspacingMark, "Mn"), (.decimalNumber, "Nd"), (.letterNumber, "Nl"),
   (.otherNumber, "No"), (.connector, "Pc"), (.dash, "Pd"), (.closing, "Pe"), (.finalQuote, "Pf"),
   (.initialQuote, "Pi"), (.otherPunctuation, "Po"), (.opening, "Ps"), (.currency, "Sc"), (.modifierSymbol, "Sk"),
   (.mathSymbol, "Sm"), (.otherSymbol, "So"), (.lineSeparator, "Zl"), (.paragraphSeparator, "Zp"), (.space, "Zs")]

def code (c : Category) : Text := ((codes.find? fun (known, _) => known = c).map (·.2)).getD []

def runs : Runs Category := Runs.ofTable (fun n => ((codes[n]?).map (·.1)).getD .unassigned) (Tables.named "category")

def isLetter : Category → Bool
  | .capitalLetter | .smallLetter | .titleLetter | .modifierLetter | .otherLetter => true
  | _ => false

def isNumber : Category → Bool
  | .decimalNumber | .letterNumber | .otherNumber => true
  | _ => false

/-- Controls, formats, what has no meaning of its own or none at all, and what only separates. -/
def isInvisible : Category → Bool
  | .control | .format | .surrogate | .privateUse | .unassigned | .lineSeparator | .paragraphSeparator
  | .space => true
  | _ => false

end Category

def CodePoint.category (c : CodePoint) : Category := (Category.runs.at? c.val).getD .unassigned

end Counterpart
