import Counterpart.Script.Native.Backing
import Counterpart.Script.Source
import Counterpart.Script.Support.Descriptor
import Counterpart.Script.Support.Hint

/-!
Which built-in operation a name stands for. An operation that a class does not have by itself is that of one
of its bases.
-/
namespace Counterpart.Script

variable {σ α : Type} (f : Function) (sort : NativeSort) (owner name : String) (frame : Address) (args : List Obj)
variable (self : Obj) (named : Attrs)

/-! ## Attributes of numbers and bounds -/

def complexGetters : List (String × Getter σ) :=
  let part (choose : Double → Double → Double) (self : Obj) : Run σ Obj := do
    match ← plainValue self with
    | .complex re im => return .real (choose re im)
    | o => return o
  [("real", part fun re _ => re), ("imag", part fun _ im => im)]

def boundGetters : List (String × Getter σ) :=
  let bound (place : Nat) (self : Obj) : Run σ Obj := do
    match ← payloadOf self with
    | .range a b c => return nth [.int a, .int b, .int c] place
    | .slice a b c => return nth [a, b, c] place
    | _ => return .none
  [("start", bound 0), ("stop", bound 1), ("step", bound 2)]

/-! ## Tables by owner -/

def operationClasses : List String :=
  ["builtin_function_or_method", "wrapper_descriptor", "method-wrapper", "method_descriptor",
   "classmethod_descriptor", "getset_descriptor", "member_descriptor"]

def nativesOf : Natives σ :=
  match owner with
  | "object" => objectNatives
  | "type" => typeNatives
  | "int" => intNatives
  | "bool" => truthNatives
  | "float" => realNatives
  | "complex" => complexNatives
  | "str" => textNatives
  | "bytes" => bytesNatives
  | "bytearray" => bufferNatives
  | "memoryview" => viewNatives
  | "tuple" => tupleNatives
  | "list" => listNatives
  | "dict" => dictNatives
  | "set" => setNatives
  | "frozenset" => frozenSetNatives
  | "range" => rangeNatives
  | "slice" => sliceNatives
  | "mappingproxy" => mappingNatives
  | "dict_keys" => DictView.keys.setNatives
  | "dict_values" => DictView.values.commonNatives
  | "dict_items" => DictView.items.setNatives
  | "BaseException" => errorNatives
  | "function" => functionNatives
  | "method" => methodNatives
  | "classmethod" => wrapperNatives "classmethod"
  | "staticmethod" => wrapperNatives "staticmethod"
  | "property" => propertyNatives
  | "super" => superNatives
  | "module" => moduleNatives
  | "builtins" => objectFunctions ++ numberFunctions ++ itemFunctions ++ sourceFunctions
  | "operator" => operatorFunctions
  | "generator" => generatorNatives
  | "coroutine" => coroutineNatives
  | "math" => mathFunctions
  | "_basics" => backingFunctions
  | owner =>
    if operationClasses.contains owner then nativeNatives
    else if storedClasses.contains owner then storedNatives else specialErrorNatives.lookup owner |>.getD []

def routinesOf : Routines σ :=
  match owner with
  | "ABCMeta" => openClassRoutines
  | "abc" => [("abstractmethod", of1 markOpen)]
  | "Future" => futureRoutines
  | "PendingReply" => replyRoutines
  | "Signal" => signalRoutines
  | "BoundSignal" => boundSignalRoutines
  | "ReplicaBase" => replicaRoutines
  | "Channel" => channelRoutines
  | "Record" => recordRoutines
  | "RemoteEnum" => remoteEnumRoutines
  | "MetaObject" => metaObjectRoutines
  | "SourceApiMap" => descriptorRoutines
  | "repgen.proto.runtime" => [("deliver_reply", of2 deliver)]
  | "repgen.proto.meta" => [("meta_object", of1 metaObject)]
  | "repgen.proto.registry" => registryRoutines
  | "repgen.proto.serialization" => codecRoutines
  | _ => []

def gettersOf : List (String × Getter σ) :=
  match owner with
  | "type" => typeGetters
  | "complex" => complexGetters
  | "range" | "slice" => boundGetters
  | "function" => functionGetters
  | "classmethod" | "staticmethod" => wrapperGetters
  | "property" => propertyGetters
  | "BaseException" => errorGetters
  | _ => []

def settersOf : List (String × Setter σ) :=
  match owner with
  | "type" => typeSetters
  | "function" => functionSetters
  | "BaseException" => errorSetters
  | _ => []

/-! ## Finding what is asked for -/

def baseDepth : Nat := 20

def knownClass? (key : String) : Option KnownClass := (knownPlaces[key]?).bind fun place => knownClasses[place]?

def operationPackages : List (String × List String) := namedRows "operations"

def operationPackage? : Option Text :=
  if name = "encode" || name = "decode" then some "_codings"
  else (operationPackages.find? fun (_, owners) => owners.contains owner).map fun (package, _) => package

def writtenOperation? : Run σ (Option Obj) := do
  let some package := operationPackage? owner name | return none
  runPackage package
  let place := ((owner.splitOn ".").getLastD "").replace "-" "_" ++ "_"
  let some operations ← moduleObj? package place | return none
  ownAttr? operations name

def native? (name : String) : Nat → String → Run σ (Option (Native σ))
  | 0, _ => return none
  | fuel + 1, owner => do
    if let some f := (nativesOf owner).lookup name then return some f
    if let some f ← writtenOperation? owner name then return some fun args named => call f args named
    let some c := knownClass? owner | return none
    c.bases.findSomeM? (native? name fuel)

def ownerText : Text := Text.ofString ((knownClass? owner).map (·.name) |>.getD owner)

def checkOperator : Run σ Unit := do
  if sort = .operator && !named.isEmpty && !(["__init__", "__call__"].contains name) then
    typeError ["wrapper ", name, "() takes no keyword arguments"]

def percentLetters? : Text → Option (List Char)
  | [] => some []
  | [c] => if c = '%' then none else some []
  | c :: d :: rest =>
    if c ≠ '%' then percentLetters? (d :: rest)
    else if ['s', 'r', 'd'].contains d.toChar then (percentLetters? rest).map (d.toChar :: ·) else none

def fillPercents : Text → List Text → Text
  | c :: d :: rest, t :: others =>
    if c = '%' then t ++ fillPercents rest others else c :: fillPercents (d :: rest) (t :: others)
  | rest, _ => rest

def setPlainly? : Run σ (Option Obj) := do
  match name, args with
  | "__format__", [self, .text []] => return some (.text (← strOf self))
  | "__mod__", [.text t, o] =>
    let given := match ← plainValue o with
      | .tuple items => items
      | _ => [o]
    let some letters := percentLetters? t | return none
    let isPlain (c : Char) (o : Obj) : Bool := c ≠ 'd' || o matches .int _
    if letters.length ≠ given.length || !(letters.zip given).all fun (c, o) => isPlain c o then return none
    let texts ← (letters.zip given).mapM fun (c, o) => if c = 'r' then reprVia o else strOf o
    return some (.text (fillPercents t texts))
  | _, _ => return none

def callNative : Run σ Obj := do
  if let some o ← setPlainly? name args then return o
  let some f ← native? name baseDepth owner | raise "NotImplementedError" [ownerText owner, ".", name]
  f args named

def checkMaker : Run σ Unit := do
  if (knownClass? owner).isSome then
    let label := ownerText owner
    let o :: _ := args | typeError [label, ".__new__(): not enough arguments"]
    let some (a, info) ← class? o | typeError [label, ".__new__(X): X is not a type object (", ← typeName o, ")"]
    if !(← derives a (known owner)) then
      typeError [label, ".__new__(", info.title, "): ", info.title, " is not a subtype of ", label]

def checkSelf : Run σ Unit := do
  let label := name
  match args with
  | [] =>
    if sort = .operator then
      typeError ["descriptor '", label, "' of '", ownerText owner, "' object needs an argument"]
    typeError ["unbound method ", ownerText owner, ".", label, "() needs an argument"]
  | self :: _ =>
    if !(← isA self owner) then
      if sort = .operator then
        typeError ["descriptor '", label, "' requires a '", ownerText owner, "' object but received a '",
          ← typeName self, "'"]
      typeError ["descriptor '", label, "' for '", ownerText owner, "' objects doesn't apply to a '",
        ← typeName self, "' object"]

def getComputed : Run σ Obj := do
  match (gettersOf owner).lookup name with
  | some g => g self
  | none =>
    match name with
    | "__class__" => .ref <$> typeOf self
    | "__dict__" => attributesOf self
    | "__weakref__" => return .none
    | name =>
      (← ownAttr? self name).getDM do
        let some f ← writtenOperation? owner ("get" ++ name) | noAttribute self name
        call f [self]

def cannotChange : Run σ Unit := do
  let isMember := (knownClass? owner).any fun c => c.attrs.contains ('b', name)
  fail "AttributeError" (if isMember then "readonly attribute"
    else Text.concat ["attribute '", name, "' of '", ownerText owner, "' objects is not writable"])

def putComputed (value? : Option Obj) : Run σ Unit := do
  match value?, (settersOf owner).lookup name with
  | some value, some f => f self value
  | none, some _ =>
    typeError ["cannot delete '", name, "' attribute of immutable type '",
      (← classAt (← heldClass self)).name, "'"]
  | value?, none =>
    if let some value := value? then
      if let some f ← writtenOperation? owner ("put" ++ name) then
        let _ ← call f [self, value]
        return ()
    let fixed := (knownClass? owner).any (·.isFixed)
    match name, value?, self with
    | "__class__", some cls, _ => setClass self cls
    | "__class__", none, _ => typeError ["can't delete __class__ attribute"]
    | "__weakref__", _, _ =>
      let home := ((← findIn "__weakref__" (← orderOf (← typeOf self))).map (·.1)).getD 0
      raise "AttributeError" ["attribute '__weakref__' of '", (← classAt home).name, "' objects is not writable"]
    | "__dict__", some d, _ => if owner = "type" then cannotChange owner name else setAttributes self d
    | "__dict__", none, .ref a => 
      if owner = "type" then cannotChange owner name else setCell a { (← cellAt a) with attrs := [] }
    | _, _, .ref a =>
      if fixed then cannotChange owner name else changeOwn a name (return ()) value?
    | _, _, _ => cannotChange owner name

/-! ## Calling -/

def Function.envFor : Env :=
  let names := match f.body with
    | .block _ names _ _ => names
    | _ => {}
  { standing := .function frame, names, closure := f.closure, module := f.module, cls? := f.cls?
    qualifier := f.qualname ++ ".<locals>." }

def runBody : Run σ Obj := do
  let env := f.envFor frame
  match f.body with
  | .expr e => eval env e
  | .block body _ _ _ =>
    let .give v ← execBlock env body | return .none
    return v
  | _ => return .none

def Function.pausing? : Option String :=
  match f.body with
  | .block _ _ true true => some "async_generator"
  | .block _ _ false true => some "coroutine"
  | .block _ _ true false => some "generator"
  | .expr e => if e.givesItems treeDepth then some "generator" else none
  | _ => none

def Function.tasks : List Task :=
  match f.body with
  | .block body _ _ _ => tasksOf body
  | .expr e => [.run (.give (some e))]
  | _ => []

def Function.ownNames : List Text :=
  let bound := match f.body with
    | .block _ names _ _ => names.own
    | .expr e => Expr.boundNames treeDepth e
    | _ => []
  f.slots.map Slot.name ++ bound.map (privateName f.cls?)

def callFunction : Run σ Obj := do
  match f.body with
  | .host number => fun ops => ops.host number args named
  | body =>
    match bindArguments f.qualname f.slots args named with
    | .error message => fail "TypeError" message
    | .ok bound =>
      let locals ← match bound.rest? with
        | none => pure bound.locals
        | some (name, rest) => do pure (bound.locals ++ [(name, ← newDict (attrEntries rest))])
      match body with
      | .native owner name given =>
        let some routine := (routinesOf owner).lookup name | raise "NotImplementedError" [owner, ".", name]
        deeper f.module (routine (given ++ locals.map (·.2)))
      | _ =>
        let frame ← newFrame f.ownNames locals
        let some cls := f.pausing? | deeper f.module (runBody f frame)
        newObject cls (.generator { env := f.envFor frame, tasks := f.tasks })
          [("__name__", .text f.name), ("__qualname__", .text f.qualname)]

def notCallable (o : Obj) : Run σ Obj := do typeError ["'", ← typeName o, "' object is not callable"]

def callBySpecial (f : Obj) (args : List Obj) (named : Attrs) : Run σ Obj := do
  let some g ← special? f "__call__" | notCallable f
  callSpecial g f args named

def callObj (f : Obj) (args : List Obj) (named : Attrs) : Run σ Obj := do
  match f with
  | .native .getter .. | .native .member .. => notCallable f
  | .native sort owner name =>
    if sort = .operator || sort = .method then checkSelf sort owner name args
    if sort = .function && name = "__new__" then checkMaker owner args
    checkOperator sort name named
    callNative owner name args named
  | .bound self sort owner name =>
    checkOperator sort name named
    callNative owner name (self :: args) named
  | .ref a =>
    match (← cellAt a).payload with
    | .function g => callFunction g args named
    | .method self fn => call fn (self :: args) named
    | .cls _ =>
      let some (.native _ "type" "__call__") ← special? f "__call__" | callBySpecial f args named
      callClass (f :: args) named
    | _ => callBySpecial f args named
  | _ => callBySpecial f args named

/-! ## Tying together -/

def exhausted : Core σ α := fun w =>
  .error (.ref w.heap.size)
    { w with
      heap := w.heap.push
        { cls := known "RecursionError", payload := .value (.tuple [.text "maximum recursion depth exceeded"]) } }

/-- The actions that others call each other by, nested so deep at most; `host` are the functions of those who
run a module. -/
def opsAt (host : Nat → Native σ) : Nat → Ops σ
  | 0 =>
    { call := fun _ _ _ => exhausted, eval := fun _ _ => exhausted, exec := fun _ _ => exhausted
      get := fun _ _ _ => exhausted, put := fun _ _ _ _ => exhausted, host := fun _ _ _ => exhausted }
  | fuel + 1 =>
    { call := fun f args named => callObj f args named (opsAt host fuel)
      eval := fun env e => evalExpr env e (opsAt host fuel)
      exec := fun env s => execGuarding env s (opsAt host fuel)
      get := fun owner name self => getComputed owner name self (opsAt host fuel)
      put := fun owner name self value? => putComputed owner name self value? (opsAt host fuel)
      host := fun number args named => host number args named (opsAt host fuel) }

def nesting : Nat := 1000000

end Counterpart.Script
