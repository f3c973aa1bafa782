import Counterpart.Object.Descriptor

/-!
The look-ups of a descriptor by the name of a function and its arguments. An index is any value that can be
compared with a number; one that lies inside a table has to be an integer.
-/
namespace Counterpart

def checkArguments (function : Text) (params : List Text) (given : List Value) : Except Fault Unit :=
  if params.length < given.length then
    .error (.tooManyArguments function (params.length + 1) (params.length + 1) (given.length + 1))
  else if given.length < params.length then .error (.missingArguments function (params.drop given.length))
  else .ok ()

/-- The integer by which a container of some length is looked up; anything outside it will do as `-1`. -/
def Value.toPosition (container : Text) (length : Nat) : Value → Except Fault Int
  | .real d =>
    match d.parts, d.floor? with
    | .notANumber, _ => .error (.notPosition container "float")
    | _, some i => if i < 0 ∨ length ≤ i then .ok (-1) else .error (.notPosition container "float")
    | _, Option.none => .ok (-1)
  | v =>
    match v.integer? with
    | some i => .ok i
    | Option.none => .error (.notOrdered v.kind)

namespace Descriptor

def kind? : Value → Option MemberKind
  | .text word =>
    if word = "property" then some .property
    else if word = "signal" then some .signal
    else if word = "method" then some .method
    else none
  | _ => none

def askIndex (d : Descriptor) (kind : MemberKind) (index : Value) : Except Fault Value := do
  return .integer (d.sourceIndex kind (← index.toPosition "list" (d.count kind)))

def askParamCount (d : Descriptor) (kind? : Option MemberKind) (index : Value) : Except Fault Value :=
  match d.paramTable? kind? with
  | none => .ok (.integer (-1))
  | some table => do return .integer (d.paramCount kind? (← index.toPosition "list" table.length))

/-- The type of a parameter of a member of a kind. Its place is not looked at when there is no such member. -/
def askParamType (d : Descriptor) (kind? : Option MemberKind) (index param : Value) : Except Fault Value :=
  match d.paramTable? kind? with
  | none => .ok (.integer (-1))
  | some table => do
    let i ← index.toPosition "list" table.length
    match atIndex? table i with
    | none => return .integer (-1)
    | some types => return .integer (d.paramType kind? i (← param.toPosition "tuple" types.length))

def askSignature (d : Descriptor) (kind? : Option MemberKind) (index : Value) : Except Fault Value :=
  match d.signatureTable? kind? with
  | none => .ok (.text [])
  | some table => do return .text (d.signature kind? (← index.toPosition "list" table.length))

/-- What sort of method has an index; a fraction is good enough for that. -/
def askMethodType (d : Descriptor) : Value → Except Fault Value
  | .real x =>
    match x.parts, x.floor? with
    | .notANumber, _ => .ok (.integer slotMark)
    | _, some i => .ok (.integer (d.methodType i))
    | _, Option.none => .ok (.integer (-1))
  | index => do return .integer (d.methodType (← index.toPosition "list" d.methods.length))

def ask (d : Descriptor) (function : String) (args : List Value) : Except Fault Value :=
  match function, args with
  | "name", _ => .ok (.text d.name)
  | "type_name", _ => .ok (.text d.typeName)
  | "property_count", _ => .ok (.integer (d.count .property))
  | "signal_count", _ => .ok (.integer (d.count .signal))
  | "method_count", _ => .ok (.integer (d.count .method))
  | "source_property_index", [index] => d.askIndex .property index
  | "source_signal_index", [index] => d.askIndex .signal index
  | "source_method_index", [index] => d.askIndex .method index
  | "signal_parameter_count", [index] => d.askParamCount (some .signal) index
  | "signal_parameter_type", [index, param] => d.askParamType (some .signal) index param
  | "method_parameter_count", [index] => d.askParamCount (some .method) index
  | "method_parameter_type", [index, param] => d.askParamType (some .method) index param
  | "property_index_from_signal", [index] => do
    return .integer (d.propertyIndex (← index.toPosition "list" d.changed.length))
  | "property_raw_index_from_signal", [index] => do
    return .integer (d.propertyPosition (← index.toPosition "list" d.changed.length))
  | "signal_signature", [index] => d.askSignature (some .signal) index
  | "method_signature", [index] => d.askSignature (some .method) index
  | "method_type", [index] => d.askMethodType index
  | "method_return_type", [index] => do
    return .text (d.returnType (← index.toPosition "list" d.returnTypes.length))
  | "count", [kind] => .ok (.integer (d.count ((kind? kind).getD .method)))
  | "source_index", [kind, index] => d.askIndex ((kind? kind).getD .method) index
  | "parameter_count", [kind, index] => d.askParamCount (kind? kind) index
  | "parameter_type", [kind, index, param] => d.askParamType (kind? kind) index param
  | "signature", [kind, index] => d.askSignature (kind? kind) index
  | _, _ => .ok .none

def lookUp (d : Descriptor) (function : Text) (args : List Value) : Except Fault Value := do
  checkArguments (Text.concat ["SourceApiMap.", function]) ((Keyed.get? function Layer.lookUps).getD []) args
  d.ask function.toString args

end Descriptor
end Counterpart
