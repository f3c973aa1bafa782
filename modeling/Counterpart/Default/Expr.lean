import Counterpart.Interface.Resolution

/-!
Default values as expressions of generated modules.
-/
namespace Counterpart

inductive DefaultExpr where
  | truth (b : Bool)
  | null
  | integer (digits : Text)
  | real (digits : Text)
  | quoted (source : Text)
  | emptyTexts
  | construct (callee : Hint) (args : List DefaultExpr)
  | member (callee : Hint) (enumerator : Text)

namespace DefaultExpr

mutual
def text : DefaultExpr → Text
  | .truth b => if b then "True" else "False"
  | .null => "None"
  | .integer digits => digits
  | .real digits => digits
  | .quoted source => source
  | .emptyTexts => "[]"
  | .construct callee args => callee.spelling ++ "(" ++ Text.join ", " (texts args) ++ ")"
  | .member callee enumerator => callee.spelling ++ "." ++ enumerator

def texts : List DefaultExpr → List Text
  | [] => []
  | e :: rest => text e :: texts rest
end

def empty : Hint → DefaultExpr
  | .truth => .truth false
  | .integer => .integer "0"
  | .real => .real "0.0"
  | .text => .quoted "\"\""
  | .bytes => .quoted "b\"\""
  | .texts => .emptyTexts
  | .any => .null
  | .named symbol => .construct (.named symbol) []

end DefaultExpr
end Counterpart
