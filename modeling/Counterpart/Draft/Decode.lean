import Counterpart.Draft.Basic
import Counterpart.Draft.Error

/-!
Reading a draft from JSON. Fields are read in the order they are declared in; a member that is not a
field is passed over, a missing field takes its default, and a null leaves a field absent. Texts,
integers and truth values are taken from values of other kinds where that makes sense.
-/
namespace Counterpart.Draft

abbrev Fields := List (Text × Json)

def fieldsOf : Json → Except LoadError Fields
  | .obj members => .ok members
  | other => .error (.noFields other.kind)

/-- Reads a field: a missing one takes the default or fails, a null is absent. -/
def field {α : Type} (fields : Fields) (name : Text) (default? : Option α)
    (decode : Json → Except LoadError α) : Except LoadError (Option α) :=
  match Keyed.get? name fields, default? with
  | none, some value => .ok (some value)
  | none, none => .error (.missingField name)
  | some .null, _ => .ok none
  | some value, _ => (decode value).map some

def optionalField {α : Type} (fields : Fields) (name : Text)
    (decode : Json → Except LoadError α) : Except LoadError (Option α) :=
  match Keyed.get? name fields with
  | none | some .null => .ok none
  | some value => (decode value).map some

def decodeText (value : Json) : Except LoadError Text := .ok value.text

/-- A value as an integer: fractions are cut off and texts are read as numerals. -/
def decodeWhole : Json → Except LoadError Whole
  | .int i => .ok (.number i)
  | .bool b => .ok (.truth b)
  | .float d =>
    match d.truncate? with
    | some i => .ok (.number i)
    | none => .error (if d.parts = .notANumber then .noNumber else .infinite)
  | .str t =>
    match Numeral.readInteger t with
    | .ok i => .ok (.number i)
    | .error .malformed => .error (.badNumeral t)
    | .error (.tooLong digits) => .error (.longNumeral digits)
  | other => .error (.noInteger other.kind)

def decodeTruth (value : Json) : Except LoadError Bool := .ok value.truth

def decodeAccess (value : Json) : Except LoadError Access :=
  match value with
  | .str t =>
    if t = Access.constant.word then .ok .constant
    else if t = Access.readonly.word then .ok .readonly
    else if t = Access.readwrite.word then .ok .readwrite
    else .error (.badAccess value)
  | _ => .error (.badAccess value)

/-- The items of a value: those of an array, the characters of a text, the names of an object. -/
def itemsOf : Json → Except LoadError (List Json)
  | .arr items => .ok items
  | .str t => .ok (t.map fun c => .str [c])
  | .obj members => .ok (members.map fun (name, _) => .str name)
  | other => .error (.noItems other.kind)

def decodeTexts (value : Json) : Except LoadError (List Text) :=
  (itemsOf value).map (·.map Json.text)

def decodeItem {α : Type} (decode : Fields → Except LoadError α) : Json → Except LoadError (Option α)
  | .null => .ok none
  | value => (fieldsOf value >>= decode).map some

def decodeItems {α : Type} (decode : Fields → Except LoadError α) (value : Json) :
    Except LoadError (List (Option α)) :=
  itemsOf value >>= fun items => items.mapM (decodeItem decode)

def Parameter.decode (fields : Fields) : Except LoadError Parameter := do
  let type ← field fields "type" none decodeText
  let name ← field fields "name" none decodeText
  return ⟨type, name⟩

def Operation.decode (fields : Fields) : Except LoadError Operation := do
  let name ← field fields "name" none decodeText
  let params ← field fields "params" (some []) (decodeItems Parameter.decode)
  let returnType ← field fields "return_type" (some ("void" : Text)) decodeText
  return ⟨name, params, returnType⟩

def Property.decode (fields : Fields) : Except LoadError Property := do
  let type ← field fields "type" none decodeText
  let name ← field fields "name" none decodeText
  let access ← field fields "mode" (some .readwrite) decodeAccess
  let default ← field fields "default_value" (some []) decodeText
  return ⟨type, name, access, default⟩

def Enumerator.decode (fields : Fields) : Except LoadError Enumerator := do
  let name ← field fields "name" none decodeText
  let value ← field fields "value" none decodeWhole
  return ⟨name, value⟩

def EnumDecl.decode (fields : Fields) : Except LoadError EnumDecl := do
  let name ← field fields "name" none decodeText
  let enumerators ← field fields "params" none (decodeItems Enumerator.decode)
  let signed ← optionalField fields "is_signed" decodeTruth
  let max ← optionalField fields "max" decodeWhole
  return ⟨name, enumerators, signed, max⟩

def RecordDecl.decode (fields : Fields) : Except LoadError RecordDecl := do
  let name ← field fields "name" none decodeText
  let attributes ← field fields "attributes" (some []) (decodeItems Parameter.decode)
  return ⟨name, attributes⟩

def ClassDecl.decode (fields : Fields) : Except LoadError ClassDecl := do
  let name ← field fields "name" none decodeText
  let properties ← field fields "properties" (some []) (decodeItems Property.decode)
  let signals ← field fields "signals" (some []) (decodeItems Operation.decode)
  let slots ← field fields "slots" (some []) (decodeItems Operation.decode)
  let enums ← field fields "enums" (some []) (decodeItems EnumDecl.decode)
  return ⟨name, properties, signals, slots, enums⟩

def decode (document : Json) : Except LoadError Draft := do
  let fields ← fieldsOf document
  let classes ← field fields "classes" (some []) (decodeItems ClassDecl.decode)
  let records ← field fields "pods" (some []) (decodeItems RecordDecl.decode)
  let enums ← field fields "enums" (some []) (decodeItems EnumDecl.decode)
  let usedEnums ← field fields "enum_uses" (some []) decodeTexts
  let directives ← field fields "preprocessor_directives" (some []) decodeTexts
  return ⟨classes, records, enums, usedEnums, directives⟩

end Counterpart.Draft
