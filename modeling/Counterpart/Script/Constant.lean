import Counterpart.Script.Depth
import Counterpart.Script.Statement

/-!
Expressions that are constants: values that are written out, tuples, lists, sets and dictionaries of these,
and sums of a real and an imaginary number. The parts are looked at in the order of the text, and the first
that is wrong tells why the whole is none.
-/
namespace Counterpart.Script

inductive ConstantFault where
  | malformed
  /-- A value of that kind stands in a set or among keys, where it can change unnoticed. -/
  | unhashable (kind : Text)
  | tooLarge
  | tooDeep
  | unreadable
  deriving DecidableEq, Repr

def checkHashable (value : Literal) : Except ConstantFault Unit :=
  match value.unhashable? with
  | some kind => throw (.unhashable kind)
  | none => return ()

def Expr.number : Expr → Except ConstantFault Literal
  | .constant (.integer i) => return .integer i
  | .constant (.real d) => return .real d
  | .constant (.complex re im) => return .complex re im
  | _ => throw .malformed

def Expr.signedNumber : Expr → Except ConstantFault Literal
  | .unary .plus e => e.number
  | .unary .minus e => return (← e.number).negated
  | e => e.number

/-- The sum of a real number and an imaginary one, or their difference. A real number has no imaginary part
of its own, so that a zero is added to one or subtracted from one. -/
def complexSum (negative : Bool) (left right : Literal) : Except ConstantFault Literal := do
  let .complex re im := right | throw .malformed
  let real ← match left with
    | .integer i => (Double.ofInt? i).getDM do throw .tooLarge
    | .real d => pure d
    | _ => throw .malformed
  if negative then return .complex (real.add re.negated) (Double.zero.add im.negated)
  return .complex (real.add re) (Double.zero.add im)

def Expr.evalConstant : Nat → Expr → Except ConstantFault Literal
  | 0, _ => throw .malformed
  | fuel + 1, e =>
    match e with
    | .constant value => return value
    | .tuple items => .tuple <$> items.mapM (evalConstant fuel)
    | .list items => .list <$> items.mapM (evalConstant fuel)
    | .set items => do
      let members ← items.mapM fun item => do
        let value ← evalConstant fuel item
        checkHashable value
        return value
      return .set members
    | .call (.name n) [] => if n = "set" then return .set [] else throw .malformed
    | .dict keys values => do
      let entries ← (keys.zip values).mapM fun (key?, value) => do
        let some key := key? | throw .malformed
        let k ← evalConstant fuel key
        let v ← evalConstant fuel value
        checkHashable k
        return (k, v)
      return .dictionary entries
    | .binary .add left right => do complexSum false (← left.signedNumber) (← right.number)
    | .binary .subtract left right => do complexSum true (← left.signedNumber) (← right.number)
    | e => e.signedNumber

def Expr.asConstant (e : Expr) : Except ConstantFault Literal :=
  if heightLimit < e.height treeDepth then throw .tooDeep else e.evalConstant treeDepth

def readConstant (source : Text) : Except ConstantFault Literal :=
  if source.any fun c => c.isSurrogate || c.val == 0 then throw .malformed
  else
    match readExpression (source.dropWhile fun c => c.val == 32 || c.val == 9) with
    | .ok e => e.asConstant
    | .error .exhausted => throw .unreadable
    | .error _ => throw .malformed

end Counterpart.Script
