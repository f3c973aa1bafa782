import Counterpart.Script.Native.Dict
import Counterpart.Script.Native.Error
import Counterpart.Script.Search

/-!
The built-in operations of all objects, of classes, functions and methods, and of what stands in classes to
compute attributes.
-/
namespace Counterpart.Script

variable {σ : Type} (a : Address) (o self : Obj)

def placeText : Text :=
  match o with
  | .ref a => "0x7f" ++ Text.hex 10 (a * 16)
  | _ => "0x7f0000000000"

def moduleOfClass : Run σ Obj := do
  if let some o ← ownAttr? (.ref a) "__module__" then return o
  return .text (((knownClasses[a]?).map fun c => c.module).getD "builtins")

def classTitle : Run σ Text := do
  let qualname := (← classAt a).qualname
  let .text m ← moduleOfClass a | return qualname
  return if m = "builtins" then qualname else m ++ "." ++ qualname

def nameArgument : Run σ Text := do
  (← textOf? o).getDM do typeError ["attribute name must be string, not '", ← typeName o, "'"]

/-! ## Objects -/

def objectNatives : Natives σ :=
  let apart : Native σ := operator1 fun _ _ => return .notImplemented
  [("__new__", fun args named => do
      let o :: given := args | typeError ["object.__new__(): not enough arguments"]
      let some (a, _) ← class? o | typeError ["object.__new__(X): X is not a type object (", ← typeName o, ")"]
      newPlain a given named),
   ("__init__", fun args named => initPlain (args.headD .none) (args.drop 1) named),
   ("__repr__", operator0 fun self => do
      return .text (Text.concat ["<", ← classTitle (← typeOf self), " object at ", placeText self, ">"])),
   ("__str__", operator0 fun self => .text <$> reprOf self),
   ("__hash__", operator0 fun self => do
      match self with
      | .ref a => return .int a
      | o => .int <$> hashOf o),
   ("__eq__", operator1 fun self o => do return if self.same o then .truth true else .notImplemented),
   ("__ne__", operator1 fun self o => do
      match ← trySpecial "__eq__" self [o] with
      | .notImplemented => return .notImplemented
      | v => return .truth !(← truthOf v)),
   ("__lt__", apart), ("__le__", apart), ("__gt__", apart), ("__ge__", apart),
   ("__getattribute__", operator1 fun self name => do builtinAttr "object" self (← nameArgument name)),
   ("__setattr__", operator2 fun self name value => quietly do changeBuiltin self (← nameArgument name) (some value)),
   ("__delattr__", operator1 fun self name => quietly do changeBuiltin self (← nameArgument name) none),
   ("__init_subclass__", fun args named => do
      if !named.isEmpty then
        typeError [(← class? (args.headD .none)).elim [] (·.2.name), ".__init_subclass__() takes no keyword arguments"]
      return .none),
   ("__subclasshook__", fun _ _ => return .notImplemented),
   ("__class_getitem__", fun args _ => newObject "types.GenericAlias" (.value (.tuple (args.take 2))))]

def attributesOf : Run σ Obj := do
  let .ref a := o | noAttribute o "__dict__"
  newObject "dict" (.attributes a)

def setClass (cls : Obj) : Run σ Unit := do
  let some (b, info) ← class? cls | typeError ["__class__ must be set to a class, not '", ← typeName cls, "' object"]
  let refuse : Run σ Unit := typeError ["__class__ assignment only supported for mutable types or ModuleType subclasses"]
  let .ref a := self | refuse
  let c ← cellAt a
  let old ← classAt c.cls
  if info.isFixed || old.isFixed then refuse
  if info.layout.root ≠ old.layout.root || info.layout.hasAttributes ≠ old.layout.hasAttributes then
    typeError ["__class__ assignment: '", info.name, "' object layout differs from '", old.name, "'"]
  setCell a { c with cls := b }

def spaceOf : Run σ Attrs := do return textEntries (← entriesOf o)

def setAttributes (dict : Obj) : Run σ Unit := do
  if !(← isDict dict) then typeError ["__dict__ must be set to a dictionary, not a '", ← typeName dict, "'"]
  if let .ref a := self then setShown a (← spaceOf dict)

/-! ## Classes -/

def heldClass : Run σ Address := do
  let some (a, _) ← class? o | return 0
  return a

def classArguments (args : List Obj) : Run σ (Text × List Obj × Obj) := do
  match args with
  | [name, bases, space] =>
    match ← textOf? name, ← plainValue bases, ← isDict space with
    | some name, .tuple bases, true => return (name, bases, space)
    | none, _, _ => typeError ["type.__new__() argument 1 must be str, not ", ← typeName name]
    | _, .tuple _, false => typeError ["type.__new__() argument 3 must be dict, not ", ← typeName space]
    | _, _, _ => typeError ["type.__new__() argument 2 must be tuple, not ", ← typeName bases]
  | args => typeError ["type.__new__() takes exactly 3 arguments (", Text.ofNat args.length, " given)"]

def newClass : Native σ := fun args named => do
  let type :: given := args | typeError ["type.__new__(): not enough arguments"]
  let meta' ← heldClass type
  let (name, bases, space) ← classArguments given
  let winner ← metaclassFor meta' bases
  if winner ≠ meta' then
    if let some f ← lookup? winner "__new__" then
      if !(f matches .native _ "type" "__new__") then
        return ← call (← bindTo f none winner) (.ref winner :: given) named
  makeClass winner name bases (← spaceOf space) named

def callClass : Native σ := fun args named => do
  let cls ← heldClass (args.headD .none)
  match args.drop 1, named with
  | [o], [] => if cls = known "type" then .ref <$> typeOf o else instantiate cls [o] []
  | given, named =>
    if cls = known "type" && given.length ≠ 3 then typeError ["type() takes 1 or 3 arguments"]
    instantiate cls given named

def derivedDirectly (cls : Address) : Run σ (List Obj) := do
  return (← get).heap.toList.zipIdx.filterMap fun (cell, a) =>
    match cell.payload with
    | .cls info => if info.bases.contains cls then some (.ref a) else none
    | _ => none

def typeNatives : Natives σ :=
  [("__new__", newClass),
   ("__init__", fun args _ => do
      match args.length with
      | 2 | 4 => return .none
      | _ => typeError ["type.__init__() takes 1 or 3 arguments"]),
   ("__call__", callClass),
   ("__repr__", operator0 fun self => do
      return .text (Text.concat ["<class '", ← classTitle (← heldClass self), "'>"])),
   ("__getattribute__", operator1 fun self name => do builtinAttr "type" self (← nameArgument name)),
   ("__prepare__", fun _ _ => newDict []),
   ("mro", nullary "type.mro" fun self => do newList ((← orderOf (← heldClass self)).map .ref)),
   ("__instancecheck__", unary "type.__instancecheck__" fun self o => .truth <$> isInstancePlain o self),
   ("__subclasscheck__", unary "type.__subclasscheck__" fun self o => .truth <$> isSubclassPlain o self),
   ("__subclasses__", nullary "type.__subclasses__" fun self => do newList (← derivedDirectly (← heldClass self)))]

def typeGetters : List (String × Getter σ) :=
  let of (part : ClassInfo → Obj) : Getter σ := fun self => do return part (← classAt (← heldClass self))
  [("__name__", of (.text ·.name)), ("__qualname__", of (.text ·.qualname)),
   ("__bases__", of fun info => .tuple (info.bases.map .ref)),
   ("__base__", of fun info => info.bases.head?.elim .none .ref),
   ("__mro__", fun self => do return .tuple ((← orderOf (← heldClass self)).map .ref)),
   ("__module__", fun self => do moduleOfClass (← heldClass self)),
   ("__dict__", fun self => do newObject "mappingproxy" (.view (← heldClass self))),
   ("__doc__", fun self => do
      let cls ← heldClass self
      let some o ← ownAttr? self "__doc__" | return .none
      bindTo o none cls),
   ("__abstractmethods__", fun self => do
      (← ownAttr? self "__abstractmethods__").getDM do fail "AttributeError" "__abstractmethods__"),
   ("__annotations__", fun self => do
      let cls ← heldClass self
      (← ownAttr? self "__annotations__").getDM do
        let info ← classAt cls
        if info.isFixed then
          raise "AttributeError" ["type object '", info.name, "' has no attribute '__annotations__'"]
        let d ← newDict []
        putAttr cls "__annotations__" d
        return d),
   ("__text_signature__", fun _ => return .none),
   ("__basicsize__", fun _ => return .int 16)] ++
  ["__itemsize__", "__flags__", "__weakrefoffset__", "__dictoffset__"].map (·, fun _ => return .int 0)

def typeSetters : List (String × Setter σ) :=
  let put (name : Text) : Setter σ := fun self value => do putAttr (← heldClass self) name value
  let rename (name : Text) (change : ClassInfo → Text → ClassInfo) : Setter σ := fun self value => do
    let cls ← heldClass self
    let info ← classAt cls
    match ← textOf? value with
    | some t => setPayload cls (.cls (change info t))
    | none => typeError ["can only assign string to ", info.name, ".", name, ", not '", ← typeName value, "'"]
  [("__name__", rename "__name__" fun info t => { info with name := t }),
   ("__qualname__", rename "__qualname__" fun info t => { info with qualname := t }),
   ("__module__", put "__module__"), ("__doc__", put "__doc__"), ("__annotations__", put "__annotations__"),
   ("__abstractmethods__", fun self value => do
      putAttr (← heldClass self) "__abstractmethods__" value
      let cls ← heldClass self
      setPayload cls (.cls { (← classAt cls) with isAbstract := ← truthOf value }))]

/-! ## Functions and methods -/

def heldFunction : Run σ Function := do
  let .function f ← payloadOf o | return { name := [], qualname := [], slots := [], body := .host 0 }
  return f

def callSelf : Native σ := fun args named => call (args.headD .none) (args.drop 1) named

def bindSelf : Native σ := fun args _ => do
  let attr := args.headD .none
  checkCount [] 1 2 (args.drop 1)
  match args.drop 1 with
  | [.none] | [.none, .none] => typeError ["__get__(None, None) is invalid"]
  | [.none, cls] => bindTo attr none (← heldClass cls)
  | o :: _ => bindTo attr (some o) (← typeOf o)
  | [] => return .none

def functionNatives : Natives σ :=
  [("__call__", callSelf), ("__get__", bindSelf),
   ("__repr__", operator0 fun self => do
      return .text (Text.concat ["<function ", (← heldFunction self).qualname, " at ", placeText self, ">"]))]

def functionGetters : List (String × Getter σ) :=
  let of (part : Function → Obj) : Getter σ := fun self => do return part (← heldFunction self)
  [("__name__", of (.text ·.name)), ("__qualname__", of (.text ·.qualname)), ("__doc__", of (·.doc)),
   ("__module__", fun self => do
      let f ← heldFunction self
      f.origin?.getDM do return (← ownAttr? (.ref f.module) "__name__").getD .none),
   ("__globals__", fun self => do attributesOf (.ref (← heldFunction self).module)),
   ("__annotations__", fun self => do
      let f ← heldFunction self
      f.hints?.getDM do
        let d ← newDict []
        if let .ref a := self then setPayload a (.function { f with hints? := some d })
        return d),
   ("__code__", fun self => newObject "code" (.value self))]

def functionSetters : List (String × Setter σ) :=
  let put (change : Function → Obj → Run σ Function) : Setter σ := fun self value => do
    if let .ref a := self then setPayload a (.function (← change (← heldFunction self) value))
  let rename (name : Text) (change : Function → Text → Function) : Setter σ := put fun f value => do
    let some t ← textOf? value | typeError [name, " must be set to a string object"]
    return change f t
  [("__name__", rename "__name__" fun f t => { f with name := t }),
   ("__qualname__", rename "__qualname__" fun f t => { f with qualname := t }),
   ("__module__", put fun f value => return { f with origin? := some value }),
   ("__doc__", put fun f value => return { f with doc := value }),
   ("__annotations__", put fun f value => do
      match value, ← isDict value with
      | .none, _ => return { f with hints? := none }
      | _, true => return { f with hints? := some value }
      | _, false => typeError ["__annotations__ must be set to a dict object"])]

def methodNatives : Natives σ :=
  [("__new__", orderedMethod [] "method" 2 2 fun _ given => newMethod (given.getD 1 .none) (given.headD .none)),
   ("__call__", callSelf)]

/-! ## Built-in operations as objects -/

def computedNatives : Natives σ :=
  [("__get__", bindSelf),
   ("__set__", operator2 fun self o value => quietly (discard (changeComputed self o (some value)))),
   ("__delete__", operator1 fun self o => quietly (discard (changeComputed self o none)))]

def nativeNatives : Natives σ :=
  computedNatives ++
  [("__call__", callSelf),
   ("__eq__", operator1 fun self o => do
      match self, o with
      | .bound a _ owner name, .bound b _ owner' name' => return .truth (a.same b && owner == owner' && name == name')
      | _, _ => return if self.same o then .truth true else .notImplemented)]

/-! ## What stands in classes to compute attributes -/

def heldWrapped : Run σ Obj := do
  let .wrapper fn ← payloadOf o | return .none
  return fn

def wrapperNatives (label : Text) : Natives σ :=
  [("__new__", newBare (.wrapper .none)),
   ("__init__", orderedMethod [] label 1 1 fun self given => do
      let fn := given.headD .none
      if let .ref a := self then
        setPayload a (.wrapper fn)
        for name in (["__module__", "__name__", "__qualname__", "__doc__"] : List Text) do
          if let some v ← getAttr? fn name then putAttr a name v
      return .none),
   ("__get__", bindSelf),
   ("__call__", fun args named => do call (← heldWrapped (args.headD .none)) (args.drop 1) named)]

def wrapperGetters : List (String × Getter σ) :=
  [("__isabstractmethod__", fun self => do return .truth (← isLeftOpen (← heldWrapped self)))]

def heldProperty : Run σ (Obj × Obj × Obj) := do
  let .property get set delete ← payloadOf o | return (.none, .none, .none)
  return (get, set, delete)

def likeProperty (parts : Obj × Obj × Obj) : Run σ Obj := do
  let o ← call (.ref (← typeOf self)) [parts.1, parts.2.1, parts.2.2]
  if let (.ref a, some name) := (o, ← ownAttr? self "__name__") then putAttr a "__name__" name
  return o

def propertyNatives : Natives σ :=
  computedNatives ++
  [("__new__", newBare (.property .none .none .none)),
   ("__init__", fun args named => do
      let get := argument args named 1 "fget" .none
      let doc ← match argument args named 4 "doc" .none, get with
        | .none, .none => pure .none
        | .none, get => pure ((← getAttr? get "__doc__").getD .none)
        | doc, _ => pure doc
      if let .ref a := args.headD .none then
        setPayload a (.property get (argument args named 2 "fset" .none) (argument args named 3 "fdel" .none))
        putAttr a "__doc__" doc
      return .none),
   ("__set_name__", fun args _ => do
      match args with
      | [.ref a, _, name] =>
        putAttr a "__name__" name
        return .none
      | args => typeError ["__set_name__() takes 2 positional arguments but ", Text.ofNat (args.length - 1),
          " were given"]),
   ("getter", unary "property.getter" fun self f => do likeProperty self { (← heldProperty self) with fst := f }),
   ("setter", unary "property.setter" fun self f => do
      let (get, _, delete) ← heldProperty self
      likeProperty self (get, f, delete)),
   ("deleter", unary "property.deleter" fun self f => do
      let (get, set, _) ← heldProperty self
      likeProperty self (get, set, f))]

def propertyGetters : List (String × Getter σ) :=
  let of (part : Obj × Obj × Obj → Obj) : Getter σ := fun self => do return part (← heldProperty self)
  [("fget", of (·.1)), ("fset", of (·.2.1)), ("fdel", of (·.2.2)),
   ("__doc__", keptAttr "__doc__" .none),
   ("__isabstractmethod__", fun self => do
      let (get, set, delete) ← heldProperty self
      .truth <$> [get, set, delete].anyM isLeftOpen)]

def superNatives : Natives σ :=
  [("__new__", newBare (.above 0 .none 0)),
   ("__init__", fun args named => do
      noNamed "super" named
      match args with
      | [.ref a, cls, self] =>
        let start ← heldClass cls
        let mut below ← typeOf self
        if let some (b, _) ← class? self then if ← derives b start then below := b
        if !(← derives below start) then typeError ["super(type, obj): obj must be an instance or subtype of type"]
        setPayload a (.above start self below)
        return .none
      | [_] => fail "RuntimeError" "super(): no arguments"
      | _ => return .none)]

def moduleNatives : Natives σ := [("__new__", newBare .module)]

end Counterpart.Script
