import Counterpart.Script.Machine

/-!
Attributes. What a class has under a name may be bound to the object it is asked of; an attribute that a class
computes comes before one that an object has by itself, and that before any other of the class.
-/
namespace Counterpart.Script

variable {σ α : Type} (a : Address) (attr : Obj) (owner : String) (o self : Obj) (name : Text) (cls : Address)
variable (value? : Option Obj)

def special? : Run σ (Option Obj) := do lookup? (← typeOf o) name

def computed (name : String) (self : Obj) : Run σ Obj := fun ops => ops.get owner name self

def newMethod (fn : Obj) : Run σ Obj := newObject "method" (.method self fn)

def ownAttr? : Run σ (Option Obj) := do
  let .ref a := o | return none
  return Keyed.get? name (← attrsOf a)

def loadedModule? : Run σ (Option Address) := do return Keyed.get? name (← get).modules

def moduleObj? (module name : Text) : Run σ (Option Obj) := do
  (← loadedModule? module).bindM fun a => ownAttr? (.ref a) name

def propertyName : Run σ Text := do
  let some (.text t) ← ownAttr? (.ref a) "__name__" | return []
  return t

def propertyLacks (what : Text) : Run σ α := do
  let name ← propertyName a
  raise "AttributeError" ["property", if name.isEmpty then [] else " " ++ Quoted.text name, " of '",
    (← classAt (← typeOf self)).qualname, "' object has no ", what]

def noAttribute : Run σ α := do
  let message := Text.concat ["'", ← typeName o, "' object has no attribute '", name, "'"]
  let e ← newError "AttributeError" [.text message]
  if let .ref a := e then
    putAttr a ".name" (.text name)
    putAttr a ".obj" o
  throw e

def placeHolder (name : Text) : Run σ Address := do
  match self, ← derives (← typeOf self) cls with
  | .ref a, true => return a
  | _, _ =>
    typeError ["descriptor '", name, "' for '", (← classAt cls).name, "' objects doesn't apply to a '",
      ← typeName self, "' object"]

def bindTo (self? : Option Obj) (cls : Address) : Run σ Obj := do
  let forSelf (bind : Obj → Run σ Obj) : Run σ Obj := self?.elim (return attr) bind
  match attr with
  | .native .function .. => return attr
  | .native .classMethod owner name => return .bound (.ref cls) .classMethod owner name
  | .native sort owner name =>
    forSelf fun self =>
      if sort = .operator || sort = .method then return .bound self sort owner name else computed owner name self
  | .ref a =>
    match (← cellAt a).payload with
    | .function _ => forSelf (newMethod · attr)
    | .wrapper fn =>
      if ← isA attr "classmethod" then
        let get? ← match fn, ← payloadOf fn with
          | .ref _, .function _ => pure none
          | .ref _, _ => special? fn "__get__"
          | _, _ => pure none
        get?.elim (newMethod (.ref cls) fn) fun get => call get [fn, .ref cls, .ref cls]
      else return fn
    | .property get _ _ =>
      forSelf fun self => if get matches .none then propertyLacks a self "getter" else call get [self]
    | .place owner name =>
      forSelf fun self => do
        (Keyed.get? (placeKey owner name) (← attrsOf (← placeHolder self owner name))).getDM (noAttribute self name)
    | _ => (← special? attr "__get__").elim (return attr) fun get => call get [attr, self?.getD .none, .ref cls]
  | _ => return attr

def callSpecial (f self : Obj) (args : List Obj) (named : Attrs := []) : Run σ Obj := do
  match f, ← payloadOf f with
  | .native .operator .., _ | .native .method .., _ | _, .function _ => call f (self :: args) named
  | _, _ => call (← bindTo f (some self) (← typeOf self)) args named

def isComputed : Run σ Bool := do
  match attr, ← payloadOf attr with
  | .native .getter .., _ | .native .member .., _ | _, .property .. | _, .place .. => return true
  | _, .function _ | _, .wrapper _ => return false
  | .ref _, _ => return (← special? attr "__set__").isSome || (← special? attr "__delete__").isSome
  | _, _ => return false

def plainAttr : Run σ Obj := do
  let cls ← typeOf o
  let some attr ← lookup? cls name | (← ownAttr? o name).getDM (noAttribute o name)
  let own? ← if ← isComputed attr then pure none else ownAttr? o name
  own?.getDM (bindTo attr (some o) cls)

def noClassAttribute : Run σ α := do
  raise "AttributeError" ["type object '", (← classAt a).title, "' has no attribute '", name, "'"]

def classAttr : Run σ Obj := do
  let cls ← typeOf (.ref a)
  let general? ← lookup? cls name
  let own? ← if ← general?.elim (return false) isComputed then pure none else lookup? a name
  match own?, general? with
  | some attr, _ => bindTo attr none a
  | none, some general => bindTo general (some (.ref a)) cls
  | none, none => noClassAttribute a name

def moduleAttr : Run σ Obj := do
  attempt (plainAttr (.ref a) name) ["AttributeError"] fun _ => do
    let own : Text := match ← ownAttr? (.ref a) "__name__" with
      | some (.text m) => " '" ++ m ++ "'"
      | _ => []
    raise "AttributeError" ["module", own, " has no attribute '", name, "'"]

def attrAbove (self : Obj) (start : Address) (name : Text) : Run σ Obj := do
  let above := ((← orderOf start).dropWhile (· ≠ cls)).drop 1
  let some (_, attr) ← findIn name (if name = "__class__" then [] else above) | plainAttr o name
  bindTo attr (if self.same (.ref start) then none else some self) start

def isSpecialWord : Bool := name.take 2 = "__" && name.drop (name.length - 2) = "__" && 4 < name.length

/-- An attribute of an object, in the way that is built in. A class with parameters has the attributes of the
class. -/
def builtinAttr : Run σ Obj := do
  let attrOf (other : Obj) : Run σ Obj := call (.native .function "builtins" "getattr") [other, .text name]
  match o, ← payloadOf o with
  | .ref a, .cls _ => if owner = "object" then plainAttr o name else classAttr a name
  | .ref a, .module => moduleAttr a name
  | _, .method _ fn => if (← lookup? (known "method") name).isSome then plainAttr o name else attrOf fn
  | _, .above cls self start => attrAbove o cls self start name
  | _, .value (.tuple (origin :: _)) =>
    if owner = "types.GenericAlias" && !isSpecialWord name && (← lookup? (known owner) name).isNone then attrOf origin
    else plainAttr o name
  | _, _ => plainAttr o name

def getAttr : Run σ Obj := do
  let cls ← typeOf o
  let read : Run σ Obj := do
    match ← lookup? cls "__getattribute__" with
    | some (.native .operator owner "__getattribute__") => builtinAttr owner o name
    | some f => callSpecial f o [.text name]
    | none => builtinAttr "object" o name
  let some f ← lookup? cls "__getattr__" | read
  attempt read ["AttributeError"] fun _ => callSpecial f o [.text name]

def getAttr? : Run σ (Option Obj) :=
  attempt (do return some (← getAttr o name)) ["AttributeError"] fun _ => return none

def callMethod (args : List Obj) (named : Attrs := []) : Run σ Obj := do
  call (← getAttr o name) args named

/-! ## Setting attributes -/

def hasOwnAttrs : Run σ Bool := do
  match o, ← payloadOf o with
  | _, .function _ | _, .module | _, .cls _ => return true
  | .ref a, _ => return (← classAt (← cellAt a).cls).layout.hasAttributes
  | _, _ => return false

def cannotSet (attr? : Option Obj) : Run σ α := do
  if attr?.isNone then noAttribute o name
  else raise "AttributeError" ["'", ← typeName o, "' object attribute '", name, "' is read-only"]

/-- Sets an attribute that an object has by itself, or takes it away if it is there. -/
def changeOwn (missing : Run σ Unit) : Option Obj → Run σ Unit
  | some value => putAttr a name value
  | none => do
    let c ← cellAt a
    if (Keyed.get? name c.attrs).isNone then missing else setCell a { c with attrs := c.attrs.filter (·.1 ≠ name) }

def changeComputed : Run σ Bool := do
  match attr with
  | .native .getter owner name | .native .member owner name => fun ops => do
    ops.put owner name o value?
    return true
  | .ref a =>
    match (← cellAt a).payload with
    | .property _ set delete =>
      match if value?.isSome then set else delete with
      | .none => propertyLacks a o (if value?.isSome then "setter" else "deleter")
      | f =>
        let _ ← call f (o :: value?.toList)
        return true
    | .place owner name =>
      changeOwn (← placeHolder o owner name) (placeKey owner name) (fail "AttributeError" name) value?
      return true
    | .function _ | .wrapper _ => return false
    | _ =>
      let some f ← special? attr (if value?.isSome then "__set__" else "__delete__") | return false
      let _ ← call f ([attr, o] ++ value?.toList)
      return true
  | _ => return false

def changePlain : Run σ Unit := do
  let attr? ← lookup? (← typeOf o) name
  if let some attr := attr? then
    if ← changeComputed attr o value? then return ()
  let (.ref a, true) := (o, ← hasOwnAttrs o) | cannotSet o name attr?
  changeOwn a name (noAttribute o name) value?

def changeClass : Run σ Unit := do
  let info ← classAt a
  if info.isFixed then typeError ["cannot set '", name, "' attribute of immutable type '", info.name, "'"]
  if let some attr ← lookup? (← typeOf (.ref a)) name then
    if ← changeComputed attr (.ref a) value? then return ()
  changeOwn a name (noClassAttribute a name) value?

def changeBuiltin : Run σ Unit := do
  let (.ref a, .cls _) := (o, ← payloadOf o) | changePlain o name value?
  changeClass a name value?

def changeAttr : Run σ Unit := do
  match ← special? o (if value?.isSome then "__setattr__" else "__delattr__") with
  | some (.native .operator _ "__setattr__") | some (.native .operator _ "__delattr__") | none =>
    changeBuiltin o name value?
  | some f => let _ ← callSpecial f o (.text name :: value?.toList)

def setAttr (value : Obj) : Run σ Unit := changeAttr o name (some value)

def deleteAttr : Run σ Unit := changeAttr o name none

end Counterpart.Script
