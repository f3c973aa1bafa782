import Counterpart.Script.Dispatch

/-!
What a module finds when it is run: the built-in classes with their attributes, and the modules that can be
loaded.
-/
namespace Counterpart.Script

variable {σ : Type} (c : KnownClass) (module name : Text)

/-! ## Classes -/

def KnownClass.title? : Option Text :=
  if c.module ≠ "builtins" && c.hasLayout && (c.isFixed || c.attrs.contains ('n', "__new__")) then
    some (c.module ++ "." ++ c.name)
  else none

def knownInfos : Array ClassInfo :=
  knownClasses.foldl (fun (infos : Array ClassInfo) c =>
    let place := infos.size
    let bases := c.bases.map known
    let above := bases.filterMap fun b => infos[b]?
    let orders := above.map ClassInfo.order ++ [bases]
    let order := match mergeOrders 100 orders with
      | .ok order => order
      | .error _ => bases
    let root := if c.hasLayout then place
      else (above.map fun i => i.layout.root).find? (· ≠ 0) |>.getD 0
    infos.push
      { name := c.name, qualname := c.name, bases, order := place :: order
        layout := ⟨root, c.hasAttributes || above.any fun i => i.layout.hasAttributes⟩
        isFixed := c.isFixed, isFinal := c.isFinal, title? := c.title? }) #[]

def knownCells : Array Cell :=
  (knownClasses.zip knownInfos).map fun (c, info) => { cls := known c.type, payload := .cls info }

/-! ## Modules -/

def newModule : Run σ Address := do
  let attrs : Attrs :=
    [("__name__", .text name), ("__doc__", .none), ("__package__", .none), ("__loader__", .none), ("__spec__", .none)]
  let a ← allocate { cls := known "module", attrs, payload := .module }
  modify fun w => { w with modules := w.modules ++ [(name, a)] }
  return a

def moduleNamed : Run σ Address := do (← loadedModule? name).getDM do newModule name

/-- The parameters of a function of a package, and what it does if that is written in the language of modules. -/
def routine? (owner name : String) : Option (List Param × Option Body) :=
  match writtenFunctions.find? fun (key, _) => key.1 == (owner.splitOn ".").getLastD "" && key.2 == name with
  | some (_, params, body) => some (params, some (.block body (namesOf body) (bodyYields body) false))
  | none => (signatureParams.find? fun (key, _) => key.1 == owner && key.2 == name).map fun (_, params) => (params, none)

def newRoutine (label owner name : String) : Run σ Obj := do
  let (params, body?) := (routine? owner name).getD ([], none)
  let home ← moduleNamed module
  let slots ← params.mapM fun p => do
    let default? ← p.default?.mapM fun e => do
      match e with
      | .constant l => return constantObj l
      | .tuple _ => return .tuple []
      | .name n => return (← ownAttr? (.ref home) n).getD .none
      | _ => return .none
    return (⟨p.kind, p.name, default?⟩ : Slot)
  newObject "function" (.function
    { name := name, qualname := Text.ofString (label ++ name), slots
      body := body?.getD (.native owner name []), module := home })

/-! ## Attributes of classes -/

def tableValue (e : Expr) : Run σ Obj := do
  match e with
  | .constant l => return constantObj l
  | .unary .minus (.constant (.integer i)) => return .int (-i)
  | .tuple items => return .tuple (items.map fun item =>
      match item with
      | .constant l => constantObj l
      | _ => .none)
  | .list _ => newList []
  | .dict .. => newDict []
  | .name key => return .ref (known key.toString)
  | .dotted (.name owner) name => return (← ownAttr? (.ref (known owner.toString)) name).getD .none
  | _ => return .none

def nativeSorts : List (Char × NativeSort) :=
  [('n', .function), ('w', .operator), ('m', .method), ('c', .classMethod), ('y', .classMethod), ('g', .getter),
   ('b', .member)]

def tableAttr (letter : Char) (name : String) : Run σ Obj := do
  let routine (name : String) : Run σ Obj := newRoutine c.module (c.name ++ ".") c.key name
  match valueExprs.find? fun (key, _) => key.1 == c.key && key.2 == name with
  | some (_, e) => tableValue e
  | none =>
    if let some sort := nativeSorts.lookup letter then return .native sort c.key name
    match letter with
    | 'f' => routine name
    | 'k' => do newObject "classmethod" (.wrapper (← routine name))
    | 't' =>
      if (routine? c.key name).isSome then do newObject "staticmethod" (.wrapper (← routine name))
      else return .native .function c.key name
    | 'p' =>
      let get ← routine name
      let set ← if c.key = "ReplicaBase" && name = "node" then routine "setNode" else pure .none
      newWith "property" (.property get set .none) [("__name__", .text name)]
    | 'e' =>
      newWith "enum.property" .nothing
        [("fget", ← routine name), ("fset", .none), ("fdel", .none), ("name", .text name),
         ("clsname", .text c.name)]
    | 's' => return .text (if name = "__module__" then c.module else [])
    | _ => return .none

def fillClasses : Run σ Unit := do
  for (c, place) in knownClasses.toList.zipIdx do
    for (letter, name) in c.attrs do
      putAttr place name (← tableAttr c letter name)
  for name in (["__new_member__", "_new_member_"] : List Text) do
    putAttr (known "StrEnum") name (← newRoutine "enum" "StrEnum." "StrEnum" "__new_member__")

/-! ## What modules hold -/

def newNamed (cls : String) (attrs : Attrs) : Run σ Obj := newObject cls .nothing attrs

def fillBuiltins : Run σ Unit := do
  let m ← newModule "builtins"
  for c in builtinClasses do
    putAttr m c.name (.ref (known c.key))
  for name in builtinFunctions do putAttr m name (builtin name)
  for name in (["EnvironmentError", "IOError"] : List Text) do putAttr m name (.ref (known "OSError"))
  putAttr m "Ellipsis" .ellipsis
  putAttr m "NotImplemented" .notImplemented
  putAttr m "__debug__" (.truth true)
  for name in (["exit", "quit"] : List Text) do
    putAttr m name (← newNamed "Quitter" [("name", .text name), ("eof", .text "Ctrl-D (i.e. EOF)")])
  for name in (["copyright", "credits", "license"] : List Text) do
    putAttr m name (← newNamed "_Printer" [("_Printer__name", .text name)])
  putAttr m "help" (← newNamed "_Helper" [])

def newEnumOf (base : String) (name : Text) (members : Attrs) : Run σ Unit := do
  let names ← newList (members.map fun (n, v) => .tuple [.text n, v])
  let create ← getAttr (.ref (known base)) "_create_"
  let cls ← call create [.text name, names] [("module", .text module), ("qualname", .text name)]
  putAttr (← moduleNamed module) name cls

def fillMarks : Run σ Unit := do putAttr (← moduleNamed "enum") "_auto_null" (← newNamed "_auto_null" [])

def fillBoundaries : Run σ Unit := do
  let names : Attrs :=
    [("STRICT", .text "strict"), ("CONFORM", .text "conform"), ("EJECT", .text "eject"), ("KEEP", .text "keep")]
  newEnumOf "enum" "StrEnum" "FlagBoundary" names
  let enum ← moduleNamed "enum"
  if let some boundaries ← ownAttr? (.ref enum) "FlagBoundary" then
    for (name, _) in names do putAttr enum name (← getAttr boundaries name)
  let boundary (name : Text) : Run σ Obj := do return (← ownAttr? (.ref enum) name).getD .none
  putAttr (known "Flag") "_boundary_" (← boundary "STRICT")
  putAttr (known "IntFlag") "_boundary_" (← boundary "KEEP")
  putAttr (known "Flag") "_numeric_repr_" (builtin "repr")

def fillPackages : Run σ Unit := do
  for name in packageNames do
    let _ ← moduleNamed name
  let within : List (Text × Text × Text) := [("collections", "abc", "collections.abc"), ("os", "path", "posixpath")]
  for (package, name, module) in within do
    let p ← moduleNamed package
    let m ← moduleNamed module
    putAttr p name (.ref m)
    putAttr p "__path__" (← newList [])
    modify fun w => { w with modules := Keyed.set (package ++ "." ++ name) m w.modules }
  modify fun w => { w with pending := packageNames }

def fillModules : Run σ Unit := do
  for (module, classes) in namedRows "classes" do
    let m ← moduleNamed module
    for key in classes do
      let name := (knownClass? key).map (·.name) |>.getD key
      putAttr m name (.ref (known key))
  for (module, names) in namedRows "routines" do
    let home := module
    let m ← moduleNamed home
    for name in names do putAttr m name (← newRoutine home "" module name)
  let struct ← moduleNamed "struct"
  for name in (["calcsize", "pack", "unpack", "unpack_from"] : List String) do
    putAttr struct name (.native .function "_struct" name)
  putAttr struct "error" (.ref (known "struct.error"))
  let enum ← moduleNamed "enum"
  putAttr enum "property" (.ref (known "enum.property"))
  putAttr enum "EnumMeta" (.ref (known "EnumType"))
  fillBoundaries
  let typing ← moduleNamed "typing"
  for name in (["ClassVar", "Self", "Final", "NoReturn", "Never", "LiteralString"] : List Text) do
    putAttr typing name (← newNamed "_SpecialForm"
      [("_name", .text name), ("__doc__", .text []), ("_getitem", .native .function "typing" name.toString)])
  let future ← moduleNamed "__future__"
  for name in features do
    putAttr future name (← newNamed "_Feature"
      [("optional", .tuple [.int 3, .int 7, .int 0, .text "beta", .int 1]), ("mandatory", .none),
       ("compiler_flag", .int 0x1000000)])
  newEnumOf "repgen.proto.types" "StrEnum" "MemberKind"
    [("PROPERTY", .text "property"), ("SIGNAL", .text "signal"), ("METHOD", .text "method")]
  newEnumOf "repgen.proto.types" "IntEnum" "InvocationKind" [("WRITE_PROPERTY", .int 1), ("INVOKE_METHOD", .int 2)]
  newEnumOf "repgen.proto.types" "IntEnum" "MethodType" [("SIGNAL", .int 1), ("SLOT", .int 2)]
  let types ← moduleNamed "repgen.proto.types"
  for (name, value) in ([("UNKNOWN_TYPE", -1), ("USER_TYPE", 1024), ("NOT_FOUND", -1)] : List (Text × Int)) do
    putAttr types name (.int value)
  for (module, names) in namedRows "shared" do
    let m ← moduleNamed module
    let other ← moduleNamed (names.headD "")
    for name in names.tail.map Text.ofString do
      if let some o ← ownAttr? (.ref other) name then putAttr m name o
  let package ← moduleNamed "repgen"
  putAttr package "__path__" (← newList [])
  let support ← moduleNamed "repgen.proto"
  putAttr support "__path__" (← newList [])
  putAttr package "proto" (.ref support)
  for name in (["types", "registry", "serialization", "runtime", "meta", "descriptor"] : List Text) do
    putAttr support name (.ref (← moduleNamed ("repgen.proto." ++ name)))
  for name in (rows "modules").flatten do
    let _ ← moduleNamed name
  let math ← moduleNamed "math"
  for name in (mathFunctions : Natives σ).map (·.1) ++ writtenMathNames do
    putAttr math name (.native .function "math" name)
  for (name, d) in mathConstants do putAttr math name (.real (.ofFloat d))
  let basics ← moduleNamed "_basics"
  for (name, _) in (backingFunctions : Natives σ) do
    putAttr basics name (.native .function "_basics" name)
  fillPackages

def prepare : Run σ Unit := do
  fillMarks
  fillClasses
  fillBuiltins
  fillModules

def World.start (host : σ) : World σ :=
  let empty : World σ := { heap := knownCells, host }
  match (prepare : Run σ Unit) (opsAt (fun _ _ _ => return .none) nesting) empty with
  | .ok _ w => w
  | .error _ w => w

/-! ## Running a module -/

def ownModuleName : Text := "generated"

def runModule (body : List Stmt) : Run σ Address := do
  let m ← newModule ownModuleName
  putAttr m "__builtins__" (← attributesOf (.ref ((← loadedModule? "builtins").getD 0)))
  let env : Env := { standing := .module, names := namesOf body, module := m }
  modify fun w => { w with callers := [m] }
  let _ ← execBlock env (← beginBody env body)
  modify fun w => { w with callers := [] }
  return m

def answer? (package function : Text) (args : List Obj) : Option Obj :=
  let asked : Run Unit Obj := do
    runPackage package
    call ((← moduleObj? package function).getD .none) args
  match asked (opsAt (fun _ _ _ => return .none) nesting) (World.start ()) with
  | .ok o _ => some o
  | .error _ _ => none

end Counterpart.Script
