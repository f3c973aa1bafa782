import Counterpart.Script.Container

/-!
Operators. Numbers are computed with at once; other objects are asked by way of the special methods of their
classes, the left one first unless the class of the right one derives from that of the left.
-/
namespace Counterpart.Script

variable {σ α : Type} (op : BinaryOp) (o a key b : Obj)

def BinaryOp.sign : Text := if op = .power then "** or pow()" else op.mark

def BinaryOp.method : Text := "__" ++ op.words.1 ++ "__"

def BinaryOp.reflected : Text := "__r" ++ op.words.1 ++ "__"

def BinaryOp.inPlace : Text := "__i" ++ op.words.1 ++ "__"

def ofArithmetic (result : Except ArithmeticFault Number) (unsupported : Run σ Obj) : Run σ Obj := do
  match result with
  | .ok n => return n.toObj
  | .error (.zeroDivision message) => fail "ZeroDivisionError" message
  | .error (.overflow message) =>
    if message = "(34, 'Numerical result out of range')" then
      throw (← newError "OverflowError" [.int 34, .text "Numerical result out of range"])
    fail "OverflowError" message
  | .error (.value message) => fail "ValueError" message
  | .error .unsupported => unsupported

def isJoining : Obj → Bool
  | .native .operator owner name =>
    ["str", "bytes", "bytearray", "list", "tuple"].contains owner && ["__add__", "__mul__", "__rmul__"].contains name
  | _ => false

def unsupported (sign : Text) (a b : Obj) : Run σ α := do
  typeError ["unsupported operand type(s) for ", sign, ": '", ← typeName a, "' and '", ← typeName b, "'"]

def sameAttr : Option Obj → Option Obj → Bool
  | some a, some b => a.same b
  | none, none => true
  | _, _ => false

def operateBySpecial : Run σ Obj := do
  let (s, t) := (← typeOf a, ← typeOf b)
  let f? ← lookup? s op.method
  let r? ← lookup? t op.reflected
  let use (f? : Option Obj) (joins : Bool) (self other : Obj) : List (Run σ Obj) :=
    (f?.toList.filter fun f => isJoining f = joins).map fun f => callSpecial f self [other]
  let reflectedFirst := s ≠ t && (← derives t s) && !sameAttr r? (← lookup? s op.reflected)
  let right := if s = t then [] else use r? false b a
  let left := use f? false a b
  let plain := if reflectedFirst then right ++ left else left ++ right
  firstResult (plain ++ use f? true a b ++ use r? true b a)

def onTruths? : Option Obj :=
  match op, a, b with
  | .bitAnd, .truth s, .truth t => some (.truth (s && t))
  | .bitOr, .truth s, .truth t => some (.truth (s || t))
  | .bitXor, .truth s, .truth t => some (.truth (s != t))
  | _, _, _ => none

def operate : Run σ Obj := do
  if let some result := onTruths? op a b then return result
  match a.number?, b.number? with
  | some m, some n => ofArithmetic (m.apply op n) (unsupported op.sign a b)
  | _, _ =>
    match ← operateBySpecial op a b with
    | .notImplemented => unsupported op.sign a b
    | result => return result

def operateInPlace : Run σ Obj := do
  match a.number?, b.number? with
  | some _, some _ => operate op a b
  | _, _ =>
    match ← firstResult [trySpecial op.inPlace a [b], operateBySpecial op a b] with
    | .notImplemented => unsupported (op.mark ++ "=") a b
    | result => return result

def UnaryOp.method : UnaryOp → Text × Text
  | .plus => ("__pos__", "+")
  | .minus => ("__neg__", "-")
  | _ => ("__invert__", "~")

def operateUnary (op : UnaryOp) (o : Obj) : Run σ Obj := do
  match op, o.number? with
  | .negate, _ => return .truth !(← truthOf o)
  | .plus, some n => return n.toObj
  | .minus, some n => return n.negated.toObj
  | .invert, some (.int i) => return .int (-i - 1)
  | op, _ =>
    let (method, sign) := op.method
    bySpecial method o [] do typeError ["bad operand type for unary ", sign, ": '", ← typeName o, "'"]

def containedIn (item container : Obj) : Run σ Bool := do
  match container with
  | .tuple items => isMember item items
  | container =>
    match ← special? container "__contains__" with
    | some .none => typeError ["'", ← typeName container, "' object is not a container"]
    | some f => truthOf (← callSpecial f container [item])
    | none =>
      match ← special? container "__iter__", ← special? container "__getitem__" with
      | none, none => typeError ["argument of type '", ← typeName container, "' is not iterable"]
      | _, _ =>
        return (← firstAmong? container fun other => do return if ← equalVia other item then some () else none).isSome

def compareBy (op : CompareOp) (a b : Obj) : Run σ Obj := do
  match op with
  | .same => return .truth (a.same b)
  | .notSame => return .truth !(a.same b)
  | .member => .truth <$> containedIn a b
  | .notMember => return .truth !(← containedIn a b)
  | op => compareObjs op a b

/-! ## Items by key -/

def getItem : Run σ Obj :=
  bySpecial "__getitem__" o [key] do
    let some (_, info) ← class? o | typeError ["'", ← typeName o, "' object is not subscriptable"]
    let some f ← getAttr? o "__class_getitem__" | typeError ["type '", info.name, "' is not subscriptable"]
    call f [key]

def setItem (value : Obj) : Run σ Unit := do
  let _ ← bySpecial "__setitem__" o [key, value] do
    typeError ["'", ← typeName o, "' object does not support item assignment"]

def deleteItem : Run σ Unit := do
  let _ ← bySpecial "__delitem__" o [key] do
    typeError ["'", ← typeName o, "' object doesn't support item deletion"]

end Counterpart.Script
