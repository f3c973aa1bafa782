import Counterpart.Script.Support.Codec

/-!
What the members of a class are, and descriptors: they bind the ordinals of an interface to the members of a
class. Every answer comes by way of the attributes of the descriptor, which a class that derives may have
replaced.
-/
namespace Counterpart.Script

variable {σ : Type} (cls kind self index : Obj) (row table : Text)

/-! ## The members of a class -/

def withKeys (entries : Entries) (keys : List Obj) : Run σ Entries :=
  keys.foldlM (fun entries key => putEntry key .none entries) entries

abbrev MemberKeys := Entries × Entries × Entries

def addMembersOf (found : MemberKeys) (cls : Obj) : Run σ MemberKeys := do
  let space ← call (builtin "vars") [cls]
  let listed ← callMethod space "get" [.text "_remote_properties_", .tuple []]
  let properties ← withKeys found.1 (← itemsOf listed)
  let (signals, methods) ← (← entriesOf space).foldlM (fun (signals, methods) (name, value) => do
    if ← isInstance value (.ref (known "Signal")) then return (← putEntry name .none signals, methods)
    if ← isInstance value (.ref (known "function")) then
      let t := (← textOf? name).getD []
      if t.take 1 = "_" then return (signals, methods) else return (signals, ← putEntry name .none methods)
    else return (signals, methods)) found.2
  return (properties, signals, methods)

def metaObject : Run σ Obj := do
  let _ ← hashVia cls
  let order ← itemsOf (← getAttr cls "__mro__")
  let (properties, signals, methods) ← order.reverse.foldlM addMembersOf ([], [], [])
  let named := (← getAttr? cls "_remote_type_").getD (.text [])
  let name ← if ← truthOf named then pure named else getAttr cls "__name__"
  let row (entries : Entries) : Obj := .tuple (entries.map (·.1))
  newWith "MetaObject" .nothing
    [("type_name", name), ("properties", row properties), ("signals", row signals), ("methods", row methods)]

def rowPlace (name : Obj) : Run σ Obj := do
  return .int ((← placeAmong name (← itemsOf (← getAttr self row)) 0).elim (-1) Int.ofNat)

def metaObjectRoutines : Routines σ :=
  [("index_of_property", of2 (rowPlace · "properties" ·)),
   ("index_of_signal", of2 (rowPlace · "signals" ·)),
   ("index_of_method", of2 (rowPlace · "methods" ·))]

/-! ## Descriptors -/

def notFound : Obj := .int (-1)

def tableCount : Run σ Obj := do getItem (← getAttr self table) (.int 0)

def rowLength : Run σ Obj := do return .int (← lengthOf (← getAttr self row))

def requiredIndex (method verb : Text) (self name : Obj) : Run σ Obj := do
  let index ← callMethod (← getAttr self "_meta") method [name]
  if ← truthOf (← compareObjs .eq index notFound) then
    let cls ← getAttr (← getAttr self "_object_type") "__name__"
    typeError [← shownIn cls, verb, ← shownIn name, " of ", ← shownIn (← getAttr self "_name")]
  return index

def rowItem (other self index : Obj) : Run σ Obj := do
  if ← isOutside index (rowLength self row) then return other
  getItem (← getAttr self row) index

def parameterCount (row : Text) : Run σ Obj := do
  if ← isOutside index (tableCount self table) then return notFound
  return .int (← lengthOf (← getItem (← getAttr self row) index))

def parameterType (param : Obj) (table row : Text) : Run σ Obj := do
  if ← isOutside index (tableCount self table) then return notFound
  let types ← getItem (← getAttr self row) index
  if ← isOutside param (do return .int (← lengthOf types)) then return notFound
  getItem types param

def isKind (name : Text) : Run σ Bool := do truthOf (← compareObjs .eq kind (.text name))

def byKind (kind : Obj) (signal method : Text) (args : List Obj) (other : Obj) : Run σ Obj := do
  if ← isKind kind "signal" then callMethod self signal args
  else if ← isKind kind "method" then callMethod self method args else return other

def descriptorMakers : Routines σ :=
  [("__init__", fun args => do
      let (self, type, name) := (nth args 0, nth args 1, nth args 2)
      setAttr self "_object_type" type
      setAttr self "_meta" (← metaObject type)
      setAttr self "_name" name
      setAttr self "_type_name" (if ← truthOf (nth args 3) then nth args 3 else name)
      for table in (["_properties", "_signals", "_methods"] : List Text) do
        setAttr self table (← newList [.int 0])
      for row in (["_signal_arg_types", "_method_arg_types", "_signal_signatures", "_method_signatures",
          "_method_return_types", "_property_change_index"] : List Text) do
        setAttr self row (← newList [])
      return .none),
   ("_property_index", of2 (requiredIndex "index_of_property" " does not declare the property ")),
   ("_signal_index", of2 (requiredIndex "index_of_signal" " does not declare the signal ")),
   ("_method_index", of2 (requiredIndex "index_of_method" " does not implement the slot ")),
   ("_require_method", of2 fun self name => do
      let type ← getAttr self "_object_type"
      let found ← call (builtin "getattr") [type, name, .none]
      if !(← isCallable found) then
        typeError [← shownIn (← getAttr type "__name__"), " does not implement ", ← shownIn name, " required by ",
          ← shownIn (← getAttr self "_name")]
      return .none),
   ("_type_ids", of1 fun types => do return .tuple (← (← itemsOf types).mapM typeId))]

def descriptorRoutines : Routines σ :=
  let lookup (self index : Obj) (table : Text) : Run σ Obj := do
    let f ← getAttr self "_lookup"
    call f [← getAttr self table, index]
  descriptorMakers ++
  [("object_type", of1 (getAttr · "_object_type")),
   ("name", of1 (getAttr · "_name")),
   ("type_name", of1 (getAttr · "_type_name")),
   ("property_count", of1 (tableCount · "_properties")),
   ("signal_count", of1 (tableCount · "_signals")),
   ("method_count", of1 (tableCount · "_methods")),
   ("_lookup", of2 fun table index => do
      if ← isOutside index (getItem table (.int 0)) then return notFound
      getItem table (← operate .add index (.int 1))),
   ("source_property_index", of2 (lookup · · "_properties")),
   ("source_signal_index", of2 (lookup · · "_signals")),
   ("source_method_index", of2 (lookup · · "_methods")),
   ("signal_parameter_count", of2 (parameterCount · · "_signals" "_signal_arg_types")),
   ("signal_parameter_type", of3 (parameterType · · · "_signals" "_signal_arg_types")),
   ("method_parameter_count", of2 (parameterCount · · "_methods" "_method_arg_types")),
   ("method_parameter_type", of3 (parameterType · · · "_methods" "_method_arg_types")),
   ("property_index_from_signal", of2 fun self index => do
      if ← isOutside index (rowLength self "_property_change_index") then return notFound
      getItem (← getAttr self "_properties") (← getItem (← getAttr self "_property_change_index") index)),
   ("property_raw_index_from_signal", of2 (rowItem "_property_change_index" notFound)),
   ("signal_signature", of2 (rowItem "_signal_signatures" (.text []))),
   ("method_signature", of2 (rowItem "_method_signatures" (.text []))),
   ("method_type", of2 fun self index => do
      return if ← isOutside index (tableCount self "_methods") then notFound else .int 2),
   ("method_return_type", of2 (rowItem "_method_return_types" (.text []))),
   ("count", of2 fun self kind => do getItem (← callMethod self "_table" [kind]) (.int 0)),
   ("source_index", of3 fun self kind index => do
      call (← getAttr self "_lookup") [← callMethod self "_table" [kind], index]),
   ("parameter_count", of3 fun self kind index =>
      byKind self kind "signal_parameter_count" "method_parameter_count" [index] notFound),
   ("parameter_type", fun args =>
      byKind (nth args 0) (nth args 1) "signal_parameter_type" "method_parameter_type" [nth args 2, nth args 3]
        notFound),
   ("signature", of3 fun self kind index => byKind self kind "signal_signature" "method_signature" [index] (.text [])),
   ("_table", of2 fun self kind => do
      if ← isKind kind "property" then getAttr self "_properties"
      else if ← isKind kind "signal" then getAttr self "_signals" else getAttr self "_methods")]

end Counterpart.Script
