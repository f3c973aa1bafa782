import Counterpart.Interface.Resolution

/-!
How a record travels: its attributes in order, numbers that follow one another in one go, every other
attribute by itself.
-/
namespace Counterpart

inductive AttributeCodec where
  | own
  | used
  | named
  deriving DecidableEq, Repr

inductive RecordStep where
  | numbers (fields : List (Parameter × NumberFormat))
  | single (field : Parameter) (codec : AttributeCodec)
  deriving DecidableEq, Repr

/-- Puts a number in front of the steps, into the first step if that holds numbers. -/
def RecordStep.consNumber (field : Parameter) (format : NumberFormat) : List RecordStep → List RecordStep
  | .numbers fields :: rest => .numbers ((field, format) :: fields) :: rest
  | steps => .numbers [(field, format)] :: steps

/-- The names that the function that unpacks a record has for something of its own. -/
def RecordDecl.locals (r : RecordDecl) : List Text :=
  (["cls", "_data", "offset", "_o", "_n"] : List Text) ++ r.attributes.map fun a => Text.concat ["v_", a.name]

namespace Interface

def attributeCodec (i : Interface) (field : Parameter) : AttributeCodec :=
  if (i.enumPlan? none field.type).isSome || (i.record? field.type).isSome then .own
  else if i.usedEnums.contains field.type then .used
  else .named

def recordSteps (i : Interface) : List Parameter → List RecordStep
  | [] => []
  | field :: rest =>
    match Builtin.numberFormat? field.type with
    | some format => RecordStep.consNumber field format (i.recordSteps rest)
    | none => .single field (i.attributeCodec field) :: i.recordSteps rest

end Interface
end Counterpart
