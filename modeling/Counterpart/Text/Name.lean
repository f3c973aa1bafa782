import Counterpart.Text.Category

/-!
Names as a generated module can use them: a letter or an underscore, then letters, digits, underscores and
marks that go with letters.
-/
namespace Counterpart

def oddStarts : List Nat := [0x1885, 0x1886, 0x2118, 0x212E]

def lateLetters : List Nat := [0xE33, 0xEB3, 0xFF9E, 0xFF9F]

def barredLetters : List Nat :=
  [0x37A, 0x2E2F, 0xFC5E, 0xFC5F, 0xFC60, 0xFC61, 0xFC62, 0xFC63, 0xFDFA, 0xFDFB, 0xFE70, 0xFE72, 0xFE74,
   0xFE76, 0xFE78, 0xFE7A, 0xFE7C, 0xFE7E]

/-- Signs that can follow in a name though they are neither letters nor marks nor digits. -/
def oddContinues : List Nat :=
  [0xB7, 0x387, 0x1369, 0x136A, 0x136B, 0x136C, 0x136D, 0x136E, 0x136F, 0x1370, 0x1371, 0x19DA]

def Category.isNameLetter (c : Category) : Bool := c.isLetter || c = .letterNumber

def Category.followsLetter : Category → Bool
  | .nonspacingMark | .spacingMark | .decimalNumber | .connector => true
  | _ => false

def CodePoint.startsName (c : CodePoint) : Bool :=
  if c.val < 128 then c.isAsciiLetter || c = '_'
  else oddStarts.contains c.val ||
    (c.category.isNameLetter && !lateLetters.contains c.val && !barredLetters.contains c.val)

def CodePoint.continuesName (c : CodePoint) : Bool :=
  c.startsName ||
    (if c.val < 128 then c.isAsciiDigit
     else c.category.followsLetter || lateLetters.contains c.val || oddContinues.contains c.val)

def Text.isName : Text → Bool
  | [] => false
  | c :: rest => c.startsName && rest.all (·.continuesName)

end Counterpart
