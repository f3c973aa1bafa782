import Counterpart.Script.Inventory
import Counterpart.Script.Object
import Counterpart.Keyed

/-!
Working on objects: every action may change the store and may raise an error, which is an object too. What
was changed before an error stays changed. Actions that can call each other without end do so by way of
`Ops`, which is tied together elsewhere and ends when calls nest too deep.
-/
namespace Counterpart.Script

abbrev Core (σ : Type) := EStateM Obj (World σ)

structure Ops (σ : Type) where
  call : Obj → List Obj → Attrs → Core σ Obj
  eval : Env → Expr → Core σ Obj
  exec : Env → Stmt → Core σ Flow
  get : String → String → Obj → Core σ Obj
  put : String → String → Obj → Option Obj → Core σ Unit
  host : Nat → List Obj → Attrs → Core σ Obj

abbrev Run (σ : Type) := ReaderT (Ops σ) (Core σ)

variable {σ α : Type} (a : Address) (cls : String) (o : Obj) (name : Text) (c : Cell) (message : Text)
variable (payload : Payload) (value : Obj)

def nameIn? (space : Attrs) : Option Obj := Keyed.get? name space

def withName (space : Attrs) : Attrs := Keyed.set name value space

/-! ## The store -/

def cellAt : Run σ Cell := do return ((← get).heap[a]?).getD default

def setCell : Run σ Unit := modify fun w => { w with heap := w.heap.setIfInBounds a c }

def allocate : Run σ Address := modifyGet fun w => (w.heap.size, { w with heap := w.heap.push c })

def newObject (attrs : Attrs := []) : Run σ Obj :=
  .ref <$> allocate { cls := known cls, attrs, payload }

def newList (items : List Obj) : Run σ Obj := newObject "list" (.list items)

def newDict (entries : Entries) : Run σ Obj := newObject "dict" (.dict entries)

def payloadOf : Obj → Run σ Payload
  | .ref a => do return (← cellAt a).payload
  | _ => return .nothing

def setPayload : Run σ Unit := do setCell a { (← cellAt a) with payload }

def classAt? : Run σ (Option ClassInfo) := do
  let .cls info := (← cellAt a).payload | return none
  return some info

def classAt : Run σ ClassInfo := do
  return (← classAt? a).getD
    { name := [], qualname := [], bases := [], order := [a], layout := ⟨0, false⟩, isFixed := true }

def class? : Obj → Run σ (Option (Address × ClassInfo))
  | .ref a => do return (← classAt? a).map fun info => (a, info)
  | _ => return none

def attrsOf : Run σ Attrs := do return (← cellAt a).attrs

def isHiddenName : Bool := name.head? = some (CodePoint.ofChar '.')

def shownAttrs : Run σ Attrs := do return (← attrsOf a).filter fun (name, _) => !isHiddenName name

def placeKey (cls : Address) (name : Text) : Text := Text.concat [".", Text.ofNat cls, ".", name]

def putAttr : Run σ Unit := do
  let c ← cellAt a
  setCell a { c with attrs := Keyed.set name value c.attrs }

/-! ## Classes of objects -/

def NativeSort.classKey : NativeSort → String
  | .function => "builtin_function_or_method"
  | .operator => "wrapper_descriptor"
  | .method => "method_descriptor"
  | .classMethod => "classmethod_descriptor"
  | .getter => "getset_descriptor"
  | .member => "member_descriptor"

def typeOf : Obj → Run σ Address
  | .none => return known "NoneType"
  | .notImplemented => return known "NotImplementedType"
  | .ellipsis => return known "ellipsis"
  | .truth _ => return known "bool"
  | .int _ => return known "int"
  | .real _ => return known "float"
  | .complex .. => return known "complex"
  | .text _ => return known "str"
  | .bytes _ => return known "bytes"
  | .tuple _ => return known "tuple"
  | .native sort _ _ => return known sort.classKey
  | .bound _ .operator _ _ => return known "method-wrapper"
  | .bound .. => return known "builtin_function_or_method"
  | .ref a => do return (← cellAt a).cls

def typeName : Run σ Text := do return (← classAt (← typeOf o)).title

def orderOf (cls : Address) : Run σ (List Address) := do return (← classAt cls).order

def derives (cls base : Address) : Run σ Bool := do return (← orderOf cls).contains base

def isA (key : String) : Run σ Bool := do derives (← typeOf o) (known key)

def findIn (name : Text) : List Address → Run σ (Option (Address × Obj))
  | [] => return none
  | a :: rest => do
    let some value := Keyed.get? name (← attrsOf a) | findIn name rest
    return some (a, value)

def lookup? (cls : Address) (name : Text) : Run σ (Option Obj) := do return (← findIn name (← orderOf cls)).map (·.2)

mutual
def Obj.same : Obj → Obj → Bool
  | .none, .none => true
  | .notImplemented, .notImplemented => true
  | .ellipsis, .ellipsis => true
  | .truth a, .truth b => a == b
  | .int a, .int b => a == b
  | .real a, .real b => a.bits == b.bits && !(decide (a.parts = .notANumber))
  | .text a, .text b => a == b
  | .bytes a, .bytes b => a == b
  | .complex a b, .complex c d => a.bits == c.bits && b.bits == d.bits
  | .tuple s, .tuple t => Obj.sameRows s t
  | .native s o n, .native s' o' n' => s == s' && o == o' && n == n'
  | .ref a, .ref b => a == b
  | _, _ => false

def Obj.sameRows : List Obj → List Obj → Bool
  | [], [] => true
  | a :: s, b :: t => a.same b && Obj.sameRows s t
  | _, _ => false
end

/-! ## Errors -/

def newError (args : List Obj) : Run σ Obj := newObject cls (.value (.tuple args))

def fail : Run σ α := do throw (← newError cls [.text message])

def raise (pieces : List Text) : Run σ α := fail cls (Text.concat pieces)

def typeError : List Text → Run σ α := raise "TypeError"

def setCause (error cause : Obj) : Run σ Unit := do
  if let .ref a := error then
    putAttr a ".cause" cause
    putAttr a ".suppress" (.truth true)

def attempt (action : Run σ α) (classes : List String) (otherwise : Obj → Run σ α) : Run σ α :=
  tryCatch action fun e => do
    let order ← orderOf (← typeOf e)
    if classes.any fun c => order.contains (known c) then otherwise e else throw e

/-! ## Calls -/

def call (f : Obj) (args : List Obj) (named : Attrs := []) : Run σ Obj := fun ops => ops.call f args named

def repeatLimit : Nat := 10000000

def repeatUpTo (action : Run σ (Option α)) : Nat → Run σ α
  | 0 => fail "RecursionError" "maximum recursion depth exceeded"
  | count + 1 => do (← action).getDM do repeatUpTo action count

def repeatUntil (action : Run σ (Option α)) : Run σ α := repeatUpTo action repeatLimit

def warn : Run σ Unit := modify fun w => { w with warnings := message :: w.warnings }

end Counterpart.Script
