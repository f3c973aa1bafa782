import Counterpart.Script.Bind
import Counterpart.Script.Check
import Counterpart.Script.Operator

/-!
Classes: how they are made from bases and a namespace, and how their instances are. The order in which the
attributes of several bases are looked up keeps the order of every base.
-/
namespace Counterpart.Script

variable {σ α : Type} (type : Address) (name : Text) (cls : Obj) (names : List Text) (o base : Obj)
variable (bases : List Address)

abbrev Native (σ : Type) := List Obj → Attrs → Run σ Obj

/-! ## Order -/

def isNextIn (orders : List (List Address)) (a : Address) : Bool := orders.all fun order => !(order.drop 1).contains a

def mergeOrders : Nat → List (List Address) → Except (List (List Address)) (List Address)
  | 0, orders => .error orders
  | fuel + 1, orders =>
    match orders.filter (!·.isEmpty) with
    | [] => .ok []
    | orders =>
      match (orders.filterMap List.head?).find? (isNextIn orders) with
      | none => .error orders
      | some a =>
        (mergeOrders fuel (orders.map fun order => if order.head? = some a then order.drop 1 else order)).map (a :: ·)

def orderFor (bases : List Address) : Run σ (List Address) := do
  match repeated bases with
  | a :: _ => typeError ["duplicate base class ", (← classAt a).name]
  | [] =>
    let all := (← bases.mapM orderOf) ++ [bases]
    match mergeOrders ((all.map List.length).sum + 1) all with
    | .ok order => return order
    | .error left =>
      let names ← ((left.filterMap List.head?).eraseDups).mapM fun a => do return (← classAt a).name
      typeError ["Cannot create a consistent method resolution\norder (MRO) for bases ", Text.join ", " names]

def layoutFor : List Address → Option Layout → Run σ Layout
  | [], found? => return found?.getD ⟨known "object", true⟩
  | a :: rest, found? => do
    let info ← classAt a
    if info.isFinal then typeError ["type '", info.name, "' is not an acceptable base type"]
    let some l := found? | layoutFor rest (some info.layout)
    let both := l.hasAttributes || info.layout.hasAttributes
    if ← derives l.root info.layout.root then layoutFor rest (some ⟨l.root, both⟩)
    else if ← derives info.layout.root l.root then layoutFor rest (some ⟨info.layout.root, both⟩)
    else typeError ["multiple bases have instance lay-out conflict"]

def metaclassFor (type : Address) : List Obj → Run σ Address
  | [] => return type
  | base :: rest => do
    let other ← typeOf base
    if ← derives type other then metaclassFor type rest
    else if ← derives other type then metaclassFor other rest
    else
      typeError ["metaclass conflict: the metaclass of a derived class must be a (non-strict) subclass of the ",
        "metaclasses of all its bases"]

def baseClasses (bases : List Obj) : Run σ (List Address) :=
  bases.mapM fun base => do
    let some (a, _) ← class? base | typeError ["bases must be types"]
    return a

/-! ## Making a class -/

def callerName (back : Nat) : Run σ Obj := do
  let some m := (← get).callers[back]? | return .text "__main__"
  return (← ownAttr? (.ref m) "__name__").getD .none

def wrapFunction (cls : String) (attrs : Attrs) : Run σ Attrs := do
  let f := (nameIn? name attrs).getD .none
  let .function _ ← payloadOf f | return attrs
  return withName name (← newObject cls (.wrapper f)) attrs

def sortedTexts : List Text := names.mergeSort fun a b => !Text.before b a

def slotNames (slots : Obj) (layout : Layout) (bases : List Address) : Run σ (List Text) := do
  let names ← match slots with
    | .text t => pure [.text t]
    | o => itemsOf o
  let rootName := (← classAt layout.root).name
  if !names.isEmpty && ["int", "tuple", "bytes", "type"].contains rootName.toString then
    let base := (← (bases.take 1).mapM fun a => do return (← classAt a).name).headD []
    typeError ["nonempty __slots__ not supported for subtype of '", base, "'"]
  names.mapM fun name => do
    let .text t ← plainValue name | typeError ["__slots__ items must be strings, not '", ← typeName name, "'"]
    if !t.isName then typeError ["__slots__ must be identifiers"]
    if layout.hasAttributes && t = "__dict__" then typeError ["__dict__ slot disallowed: we already got one"]
    if layout.hasAttributes && t = "__weakref__" then
      typeError ["__weakref__ slot disallowed: either we already got one, or __itemsize__ != 0"]
    return t

def placesFor (slots : List Text) (attrs : Attrs) : Run σ (List Text) := do
  let own := (slots.filter fun (t : Text) => t ≠ "__dict__" && t ≠ "__weakref__").map (privateName (some name))
  for n in own do
    if (nameIn? n attrs).isSome then raise "ValueError" [Quoted.text n, " in __slots__ conflicts with class variable"]
  return sortedTexts own.eraseDups

def checkClassName : Run σ Unit := do
  match name.findIdx? (·.isSurrogate) with
  | some place =>
    raise "UnicodeEncodeError" ["'utf-8' codec can't encode character ",
      Quoted.text ((name.drop place).take 1), " in position ", Text.ofNat place, ": surrogates not allowed"]
  | none =>
    if name.any (·.val == 0) then fail "ValueError" "type name must not contain null characters"

def setNames (cls : Address) : Attrs → Run σ Unit
  | [] => return ()
  | (name, value) :: rest => do
    if let some f ← special? value "__set_name__" then
      let _ ← tryCatch (callSpecial f value [.ref cls, .text name]) fun e => do
        let message := Text.concat ["Error calling __set_name__ on '", ← typeName value, "' instance ",
          Quoted.text name, " in '", (← classAt cls).name, "'"]
        let error ← newError "RuntimeError" [.text message]
        setCause error e
        throw error
    setNames cls rest

def announce (cls : Address) (named : Attrs) : Run σ Unit := do
  let above ← newObject "super" (.above cls (.ref cls) cls)
  let _ ← call (← getAttr above "__init_subclass__") [] named

def isLeftOpen : Run σ Bool := do (← getAttr? o "__isabstractmethod__").elim (return false) truthOf

def orName (value : Obj) (attrs : Attrs) : Attrs :=
  if (nameIn? name attrs).isSome then attrs else withName name value attrs

def makeClass (bases : List Obj) (space named : Attrs) : Run σ Obj := do
  let baseList ← baseClasses (if bases.isEmpty then [.ref (known "object")] else bases)
  let layout ← layoutFor baseList none
  let slots? ← (nameIn? "__slots__" space).mapM fun slots => slotNames slots layout baseList
  checkClassName name
  let qualname ← match nameIn? "__qualname__" space with
    | none => pure name
    | some (.text t) => pure t
    | some o => typeError ["type __qualname__ must be a str, not ", ← typeName o]
  let attrs := space.filter fun (n, _) => n ≠ "__qualname__" && n ≠ "__classcell__"
  let attrs := orName "__module__" (← callerName 0) attrs
  let attrs ← wrapFunction "__new__" "staticmethod" attrs
  let attrs ← wrapFunction "__init_subclass__" "classmethod" attrs
  let attrs ← wrapFunction "__class_getitem__" "classmethod" attrs
  let hadAttributes ← baseList.anyM fun a => do return (← classAt a).layout.hasAttributes
  let asks (n : Text) : Bool := (slots?.map fun slots => slots.contains n).getD !hadAttributes
  let places ← placesFor name (slots?.getD []) attrs
  let cls ← allocate { cls := type }
  let attrs ← places.foldlM (fun attrs n => do
    return withName n (← newObject "member_descriptor" (.place cls n)) attrs) attrs
  let computed (n : String) (attrs : Attrs) : Attrs :=
    if asks n then withName n (.native .getter "object" n) attrs else attrs
  let attrs := orName "__doc__" .none (computed "__weakref__" (computed "__dict__" attrs))
  let cell? ← (nameIn? "__classcell__" space).mapM fun cell => do
    let (.ref a, .frame _) := (cell, ← payloadOf cell) |
      typeError ["__classcell__ must be a nonlocal cell, not ", ← reprVia (.ref (← typeOf cell))]
    return a
  let attrs := if (nameIn? "__eq__" attrs).isSome then orName "__hash__" .none attrs else attrs
  let order ← orderFor baseList
  let info : ClassInfo :=
    { name, qualname, bases := baseList, order := cls :: order
      layout := ⟨if places.isEmpty then layout.root else cls, asks "__dict__" || layout.hasAttributes⟩ }
  setCell cls { cls := type, attrs, payload := .cls info }
  if let some cell := cell? then putAttr cell "__class__" (.ref cls)
  setNames cls attrs
  announce cls named
  return .ref cls

def openMethods (space : Attrs) : Run σ (List Text) := do
  let own ← space.filterM fun (_, value) => isLeftOpen value
  let inherited ← bases.mapM fun base => do
    let some names ← getAttr? (.ref base) "__abstractmethods__" | return []
    (← itemsOf names).filterMapM fun name => do
      let .text n := name | return none
      return if ← (← getAttr? cls n).elim (return false) isLeftOpen then some n else none
  return ((own.map (·.1)) ++ inherited.flatten).eraseDups

def setOpenMethods : Run σ Unit := do
  if let .ref a := cls then
    putAttr a "__abstractmethods__" (← newFrozenSet (names.map .text))
    setPayload a (.cls { (← classAt a) with isAbstract := !names.isEmpty })

def settleOpenMethods : Run σ Unit := do
  if let .ref a := cls then
    setOpenMethods cls (← openMethods cls (← classAt a).bases (← attrsOf a))
    putAttr a "_abc_impl" (← newObject "_abc._abc_data" .nothing)

/-! ## Making an instance -/

def ensuring (last : Run σ Unit) (action : Run σ α) : Run σ α := do
  let result ← tryCatch action fun e => do
    last
    throw e
  last
  return result

def raiseBare (cls : String) : Run σ α := do throw (← newError cls [])

def newInstance (cls : Address) (payload : Payload) : Run σ Obj := .ref <$> allocate { cls, payload }

def isObjects (cls : Address) (name : Text) : Run σ Bool := do
  let some (.native _ owner found) ← lookup? cls name | return false
  return owner = "object" && found = name

def newPlain (cls : Address) (args : List Obj) (named : Attrs) : Run σ Obj := do
  let info ← classAt cls
  if !args.isEmpty || !named.isEmpty then
    if !(← isObjects cls "__new__") then
      typeError ["object.__new__() takes exactly one argument (the type to instantiate)"]
    if ← isObjects cls "__init__" then typeError [info.name, "() takes no arguments"]
  if info.isAbstract then
    let names := (← itemsOf (← getAttr (.ref cls) "__abstractmethods__")).filterMap fun
      | .text t => some t
      | _ => none
    typeError ["Can't instantiate abstract class ", info.name, " with abstract method", ending names.length, " ",
      Text.join ", " (sortedTexts names)]
  let root ← classAt info.layout.root
  if info.layout.root ≠ known "object" && root.isFixed then
    typeError ["object.__new__(", info.name, ") is not safe, use ", root.name, ".__new__()"]
  newInstance cls .nothing

def initPlain (self : Obj) (args : List Obj) (named : Attrs) : Run σ Obj := do
  if !args.isEmpty || !named.isEmpty then
    let cls ← typeOf self
    if !(← isObjects cls "__init__") then
      typeError ["object.__init__() takes exactly one argument (the instance to initialize)"]
    if ← isObjects cls "__new__" then
      typeError [(← classAt cls).name, ".__init__() takes exactly one argument (the instance to initialize)"]
  return .none

def instantiate (cls : Address) (args : List Obj) (named : Attrs) : Run σ Obj := do
  let new ← match ← lookup? cls "__new__" with
    | some (.native sort owner name) => pure (.native sort owner name)
    | some f => bindTo f none cls
    | none => typeError ["cannot create '", (← classAt cls).name, "' instances"]
  let o ← call new (.ref cls :: args) named
  if ← derives (← typeOf o) cls then
    if let some f ← special? o "__init__" then
      let answer ← if f matches .native _ "object" "__init__" then initPlain o args named else callSpecial f o args named
      if !(answer matches .none) then typeError ["__init__() should return None, not '", ← typeName answer, "'"]
  return o

/-! ## What is an instance of what -/

def isSubclassPlain : Run σ Bool := do
  match ← class? cls, ← class? base with
  | some (a, _), some (b, _) => derives a b
  | none, some _ => typeError ["issubclass() arg 1 must be a class"]
  | _, none => typeError ["issubclass() arg 2 must be a class, a tuple of classes, or a union"]

def isInstancePlain (cls : Obj) : Run σ Bool := do
  let some (a, _) ← class? cls | typeError ["isinstance() arg 2 must be a type, a tuple of types, or a union"]
  if ← derives (← typeOf o) a then return true
  let some (.ref c) ← getAttr? o "__class__" | return false
  if c ≠ (← typeOf o) && (← classAt? c).isSome then derives c a else return false

def askClass (method : Text) (plain : Run σ Bool) (cls o : Obj) : Run σ Bool := do
  match ← special? cls method with
  | some (.native _ "type" _) | none => plain
  | some f => truthOf (← callSpecial f cls [o])

def askClasses (question : String) (o cls : Obj) (single : Run σ Bool) : Run σ Bool := do
  let ask (c : Obj) : Run σ Bool := do truthOf (← call (builtin question) [o, c])
  match cls with
  | .tuple items => items.anyM ask
  | cls => if ← isA cls "types.UnionType" then ask (← plainValue cls) else single

def isInstance (cls : Obj) : Run σ Bool := do
  if (.ref (← typeOf o) : Obj).same cls then return true
  askClasses "isinstance" o cls (askClass "__instancecheck__" (isInstancePlain o cls) cls o)

def isSubclass : Run σ Bool :=
  askClasses "issubclass" cls base (askClass "__subclasscheck__" (isSubclassPlain cls base) base cls)

end Counterpart.Script
