import Counterpart.Interface.Basic
import Counterpart.Text.Word

/-!
Names that output is built from: attribute names that keep clear of reserved words, and the macro
that guards a header against being included twice.
-/
namespace Counterpart

def reservedWords : List Text :=
  (["False", "None", "True", "and", "as", "assert", "async", "await", "break", "class", "continue",
   "def", "del", "elif", "else", "except", "finally", "for", "from", "global", "if", "import", "in",
   "is", "lambda", "nonlocal", "not", "or", "pass", "raise", "return", "try", "while", "with", "yield"] : List String).map
    Text.ofString

namespace Text

/-- The name itself, or with an underscore after it where it is a reserved word. -/
def unreserved (name : Text) : Text := if reservedWords.contains name then name ++ "_" else name

/-- The guard of a header file: the last part of its path in capitals, with an underscore for every
code point other than an ASCII capital, digit or underscore. -/
def guardName (path : Text) : Text :=
  (Text.upper (afterLast "/" path)).map fun c =>
    if (65 ≤ c.val && c.val ≤ 90) || c.isAsciiDigit then c else '_'

end Text
end Counterpart
