import Counterpart.Default.Piece
import Counterpart.Module.Types

/-!
How values of a compiled unit come about: records from values for their first attributes, conversions, and
the expressions of default values. An attribute that is not given has the default of its type, which may be
a record again; the fuel bounds how deep that goes.
-/
namespace Counterpart

def Parameter.fieldName (a : Parameter) : Text := a.name.unreserved

def fillWith (default : Parameter → Except Fault Value) :
    List Parameter → List Value → Except Fault (List (Text × Value))
  | [], _ => .ok []
  | a :: rest, v :: given => do
    let later ← fillWith default rest given
    return (a.fieldName, v) :: later
  | a :: rest, [] => do
    let v ← default a
    let later ← fillWith default rest []
    return (a.fieldName, v) :: later

namespace Module

def emptyValue (m : Module) (make : Text → RecordDecl → Except Fault Value) : Hint → Except Fault Value
  | .truth => .ok (.truth false)
  | .integer => .ok (.integer 0)
  | .real => .ok (.real .zero)
  | .text => .ok (.text [])
  | .bytes => .ok (.bytes [])
  | .texts => .ok (.list [])
  | .any => .ok .none
  | .named symbol => do
    match ← m.classNamed symbol with
    | .record name r => make name r
    | .enum name plan =>
      match plan.first? name with
      | some v => return v
      | none => throw .noEnumerators
    | _ => return .none

def makeRecord (m : Module) : Nat → Text → RecordDecl → List Value → Except Fault Value
  | 0, _, _, _ => .error .tooDeep
  | fuel + 1, name, r, given =>
    let count := r.attributes.length
    if count < given.length then
      .error (.tooManyArguments (name ++ ".__init__") 1 (count + 1) (given.length + 1))
    else
      (fillWith (fun a => m.emptyValue (fun name r => m.makeRecord fuel name r []) (m.interface.hint none a.type))
        r.attributes given).map (.record name)

/-- Deep enough for defaults that do not need themselves. -/
def depth (m : Module) : Nat := m.interface.records.length + 1

def record (m : Module) (name : Text) (r : RecordDecl) (given : List Value) : Except Fault Value :=
  m.makeRecord m.depth name r given

def convert (m : Module) (v : Value) (cls : ValueClass) (room : Nat := Value.usualRoom) : Except Fault Value :=
  match cls with
  | .truth => .ok (.truth v.isTrue)
  | .integer => v.toInteger.map .integer
  | .real => v.toReal.map .real
  | .text => v.toText.map .text
  | .bytes => (v.toBytes room).map .bytes
  | .list => v.toItems.map .list
  | .enum name plan => plan.pick name v
  | .record name r => m.record name r [v]

def make (m : Module) (cls : ValueClass) (given : List Value) : Except Fault Value :=
  match cls, given with
  | .record name r, given => m.record name r given
  | cls, [v] => m.convert v cls
  | cls, given => .error (.tooManyArguments cls.name 1 1 given.length)

end Module

/-! ## Default values -/

namespace DefaultExpr

def integerSize (digits : Text) : Nat :=
  if Text.startsWith "0x" digits || Text.startsWith "0X" digits then (Literal.hexNumber? (digits.drop 2)).getD 0
  else ((Numeral.integer? digits).getD 0).toNat

def integerValue (digits : Text) : Int :=
  let sign := signOf digits
  let size : Int := integerSize (digits.drop sign.length)
  if sign = "-" then -size else size

/-- A module can hold the integer: its digits are ASCII, and there are not too many unless they are hexadecimal. -/
def isReadable (digits : Text) : Bool :=
  let body := digits.drop (signOf digits).length
  digits.all (fun c => c.val < 128) &&
    (Text.startsWith "0x" body || Text.startsWith "0X" body || body.length ≤ Numeral.digitLimit)

def realValue (digits : Text) : Double := (Numeral.double? digits).getD .zero

def classOf (m : Module) (callee : Hint) : Except Fault ValueClass := do
  match ← m.expected callee with
  | some cls => return cls
  | none => throw (.notCallable callee.spelling)

def memberOf (enumerator : Text) : ValueClass → Except Fault Value
  | .enum name plan =>
    match plan.named? name enumerator with
    | some v => .ok v
    | none => .error (.bareAttribute enumerator)
  | cls => .error (.noClassAttribute cls.name enumerator)

mutual
def value (m : Module) : DefaultExpr → Except Fault Value
  | .truth b => .ok (.truth b)
  | .null => .ok .none
  | .integer digits => if isReadable digits then .ok (.integer (integerValue digits)) else .error .unreadable
  | .real digits =>
    if digits.all fun c => c.val < 128 then .ok (.real (realValue digits)) else .error .unreadable
  | .quoted source => (Piece.ofSource source).map (·.value)
  | .emptyTexts => .ok (.list [])
  | .construct callee args => do
    let cls ← classOf m callee
    let given ← given m args
    m.make cls given
  | .member callee enumerator => do memberOf enumerator (← classOf m callee)

def given (m : Module) : List DefaultExpr → Except Fault (List Value)
  | [] => .ok []
  | .quoted source :: rest => do
    let p ← Piece.ofSource source
    let later ← given m rest
    if p.isOpen then throw .unreadable
    return p.items ++ later
  | e :: rest => do
    let first ← value m e
    let later ← given m rest
    return first :: later
end

def piece (m : Module) : DefaultExpr → Except Fault Piece
  | .quoted source => Piece.ofSource source
  | e => (value m e).map fun first => { first }

def items (m : Module) : List DefaultExpr → Except Fault (List Value)
  | [] => .ok []
  | e :: rest => do
    let p ← piece m e
    let later ← items m rest
    p.followedBy later

end DefaultExpr

namespace Module

def defaultExpr (m : Module) (c : ClassDecl) (p : Property) : DefaultExpr :=
  (m.interface.default (some c) p.type p.default).1

def startValues (m : Module) (c : ClassDecl) : Except Fault (List Value) :=
  DefaultExpr.items m (c.properties.map (m.defaultExpr c))

def startProperties (m : Module) (c : ClassDecl) : Except Fault (List (Text × Value)) :=
  c.properties.mapM fun p => do return (p.name, ← DefaultExpr.value m (m.defaultExpr c p))

end Module
end Counterpart
