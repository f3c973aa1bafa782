import Counterpart.Fault
import Counterpart.Json.Reader

/-!
Why a definition is refused: it is no JSON, a field does not have the form it should, a field that is
needed is absent, or the declarations break a rule.
-/
namespace Counterpart

inductive Rejection where
  | emptyEnum (enum : Text)
  | repeatedEnumerator (enum name : Text)
  | repeatedDeclaration (name : Text)
  | repeatedAttribute (record name : Text)
  | repeatedMember (cls kind name : Text)
  | declaredChange (cls signal property : Text)
  | sharedName (cls name : Text)
  | reservedName (cls name : Text)
  | repeatedParameter (kind cls operation name : Text)
  | returningSignal (cls signal : Text)
  deriving DecidableEq, Repr

def Rejection.message : Rejection → Text
  | .emptyEnum enum => Text.concat ["Enum ", enum, " declares no enumerators"]
  | .repeatedEnumerator enum name => Text.concat ["Enum ", enum, " repeats enumerator ", name]
  | .repeatedDeclaration name => name ++ " is declared more than once"
  | .repeatedAttribute record name => Text.concat ["POD ", record, " declares ", name, " more than once"]
  | .repeatedMember cls kind name =>
    Text.concat ["Class ", cls, " declares ", kind, " ", name, " more than once"]
  | .declaredChange cls signal property =>
    Text.concat ["Class ", cls, " declares signal ", signal, ", which is generated for property ", property]
  | .sharedName cls name => Text.concat ["Class ", cls, " uses the name ", name, " for more than one member"]
  | .reservedName cls name => Text.concat ["Class ", cls, " cannot use the reserved member name ", name]
  | .repeatedParameter kind cls operation name =>
    Text.concat [kind, " ", cls, ".", operation, " repeats parameter ", name]
  | .returningSignal cls signal => Text.concat ["Signal ", cls, ".", signal, " cannot return a value"]

inductive LoadError where
  | unreadable (e : Json.ReadError)
  | missingField (name : Text)
  | badNumeral (t : Text)
  | longNumeral (digits : Nat)
  | noNumber
  | noInteger (kind : Text)
  | badAccess (value : Json)
  | noItems (kind : Text)
  | infinite
  | noFields (kind : Text)
  | absentList
  | absentItem
  | absentName
  | rejected (r : Rejection)

namespace LoadError

def malformed? : LoadError → Option Text
  | .unreadable e => if e.isTooDeep then none else some e.message
  | .missingField name => some (Quoted.text name)
  | .badNumeral t =>
    some ("invalid literal for int() with base 10: " ++ (Quoted.text t).take 200)
  | .longNumeral digits => some (Numeral.tooLongMessage digits)
  | .noNumber => some "cannot convert float NaN to integer"
  | .noInteger kind =>
    some (Text.concat ["int() argument must be a string, a bytes-like object or a real number, not '",
      kind, "'"])
  | .badAccess value => some (value.quoted ++ " is not a valid PropertyMode")
  | .noItems kind => some (Text.concat ["'", kind, "' object is not iterable"])
  | _ => none

def message (e : LoadError) : Text :=
  match e.malformed? with
  | some reason => "Malformed interface definition: " ++ reason
  | none =>
    match e with
    | .unreadable e => e.message
    | .infinite => "cannot convert float infinity to integer"
    | .noFields kind => Text.concat ["'", kind, "' object has no attribute 'items'"]
    | .absentList => "'NoneType' object is not iterable"
    | .absentItem => "'NoneType' object has no attribute 'name'"
    | .absentName => "'NoneType' object has no attribute 'startswith'"
    | .rejected r => r.message
    | _ => []

def kind : LoadError → FaultKind
  | .unreadable e => if e.isTooDeep then .recursion else .invalid
  | .infinite => .overflow
  | .noFields _ | .absentItem | .absentName => .attribute
  | .absentList => .type
  | _ => .invalid

end LoadError
end Counterpart
