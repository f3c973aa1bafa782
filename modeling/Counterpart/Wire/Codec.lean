import Counterpart.Logged
import Counterpart.Module.Construct
import Counterpart.Registry
import Counterpart.Wire.Sized

/-!
Packing and unpacking of values by the names of their types. Builtin types have forms of their own,
enums travel as integers, records attribute by attribute, and other types as they were registered.
-/
namespace Counterpart

/-! ## Packing -/

def packUsedEnum (v : Value) : Except Fault Bytes := do
  let number ← v.toInteger
  WireType.ofUsedEnum.format.pack (.integer number)

def packByte (v : Value) : Except Fault Bytes := v.toByte.map ([·])

def characterNumber (v : Value) : Except Fault Value :=
  match v with
  | .text [c] => .ok (.integer c.val)
  | .text t => .error (.notCharacter t.length)
  | v => .ok v

def packNumberAs (type : Text) (format : NumberFormat) (v : Value) : Except Fault Bytes :=
  (format.pack v).mapError fun
    | .layout l => .unpackable v.quoted type l
    | e => e

/-- The bytes of a value by a registered codec; `own` are the bytes by which the value packs itself. -/
def RegisteredType.pack (known : RegisteredType) (v : Value) (own : Except Fault Bytes) : Except Fault Bytes :=
  match known.codec with
  | .own => own
  | .usedEnum => packUsedEnum v
  | .byte => packByte v

/-- Packs a value by the name of its type; `codec` is what packs values of a registered type, whatever that is. -/
def packBy {γ : Type} (registry : Registry γ) (codec : RegisteredType γ → Value → Except Fault Bytes) (type : Text)
    (v : Value) : Except Fault Bytes :=
  match Builtin.encoding? type with
  | some (.number format) => packNumberAs type format v
  | some .character => do packNumberAs type .uint16 (← characterNumber v)
  | some .text => Sized.packTextValue v
  | some .bytes => Sized.packBytesValue v
  | some .texts => Sized.packTextsValue v
  | some .unsent => .error (.noCodec type)
  | none =>
    match registry.lookup type with
    | none => .error (.noCodec type)
    | some known => codec known v

def packAs (registry : Registry) (type : Text) (v : Value) (own : Except Fault Bytes) : Except Fault Bytes :=
  packBy registry (fun known v => known.pack v own) type v

/-- Packs values one after the other; `pack` packs one by the name of its type. -/
def packEach (pack : Text → Value → Except Fault Bytes) : List (Text × Value) → Except Fault Bytes
  | [] => .ok []
  | (type, v) :: rest => do
    let first ← pack type v
    let later ← packEach pack rest
    return first ++ later

def packArgumentsBy (pack : Text → Value → Except Fault Bytes) (types : List Text) (values : List Value) :
    Except Fault Bytes :=
  if types.length = values.length then packEach pack (types.zip values)
  else .error (.argumentCount types.length values.length)

abbrev PackedField := Text × Value × Except Fault Bytes

namespace RecordStep

def field (r : RecordDecl) (fields : List PackedField) (a : Parameter) :
    Except Fault (Value × Except Fault Bytes) :=
  match Keyed.get? a.fieldName fields with
  | some found => .ok found
  | none => .error (.noAttribute r.name a.fieldName)

def numbersOf (r : RecordDecl) (fields : List PackedField) :
    List (Parameter × NumberFormat) → Except Fault (List (Value × NumberFormat))
  | [] => .ok []
  | (a, format) :: rest => do
    let (v, _) ← field r fields a
    let later ← numbersOf r fields rest
    return (v, format) :: later

def packNumbers : List (Value × NumberFormat) → Except Fault Bytes
  | [] => .ok []
  | (v, format) :: rest => do
    let first ← format.pack v
    let later ← packNumbers rest
    return first ++ later

def pack (registry : Registry) (r : RecordDecl) (fields : List PackedField) : RecordStep → Except Fault Bytes
  | .numbers run => do packNumbers (← numbersOf r fields run)
  | .single a codec => do
    let (v, own) ← field r fields a
    match codec with
    | .own => own
    | .used => packUsedEnum v
    | .named => packAs registry a.type v own

def packAll (registry : Registry) (r : RecordDecl) (fields : List PackedField) :
    List RecordStep → Except Fault Bytes
  | [] => .ok []
  | step :: rest => do
    let first ← step.pack registry r fields
    let later ← packAll registry r fields rest
    return first ++ later

end RecordStep

namespace Module

mutual
def packOwn (m : Module) (registry : Registry) : Value → Except Fault Bytes
  | .enumerator cls _ number =>
    match m.enumClass? cls with
    | some plan => plan.wire.format.pack (.integer number)
    | none => .error (.leftOpen "pack")
  | .record cls fields =>
    match m.recordClass? cls with
    | some r =>
      RecordStep.packAll registry r (packedFields m registry fields) (m.interface.recordSteps r.attributes)
    | none => .error (.leftOpen "pack")
  | .foreign cls number => do
    let letter ← NumberFormat.uint8.pack (.integer ((cls.head?.map (·.val)).getD 0 : Nat))
    let content ← NumberFormat.uint8.pack (.integer number)
    return letter ++ content
  | v => .error (v.lacks "pack")

def packedFields (m : Module) (registry : Registry) : List (Text × Value) → List PackedField
  | [] => []
  | (name, v) :: rest => (name, v, packOwn m registry v) :: packedFields m registry rest
end

def pack (m : Module) (registry : Registry) (type : Text) (v : Value) : Except Fault Bytes :=
  packAs registry type v (m.packOwn registry v)

abbrev packArguments (m : Module) (registry : Registry) : List Text → List Value → Except Fault Bytes :=
  packArgumentsBy (m.pack registry)

end Module

/-! ## Unpacking -/

/-- What unpacks a value at an offset: the value and the number of bytes it takes. -/
abbrev Unpacker := Bytes → Int → Logged (Value × Nat)

def unpackNumber (format : NumberFormat) (data : Bytes) (offset : Int) : Except Fault (Value × Nat) :=
  (data.window offset format.size).map fun b => (format.read b, format.size)

/-- A fault of the layout becomes one that names the type that was to be unpacked. -/
def asTruncated (type : Text) (offset : Int) : Fault → Fault
  | .layout _ => .truncated type offset
  | e => e

/-- The enumerator of a number; a strange number gives the first one and a warning. -/
def EnumPlan.fromWire (p : EnumPlan) (cls : Text) (raw : Value) : Logged Value := do
  let (v, known) ← Logged.of (p.convertValue cls raw)
  if !known then Logged.warn (.strangeNumber cls raw.shown)
  return v

def EnumPlan.unpack (p : EnumPlan) (cls : Text) : Unpacker := fun data offset => do
  let (raw, size) ← Logged.of (unpackNumber p.wire.format data offset)
  let v ← p.fromWire cls raw
  return (v, size)

/-- Unpacks a value of a class that a session brings along, which is no part of the unit: a letter, which is not looked
at, and a number. -/
def unpackForeign (cls : Text) : Unpacker := fun data offset => Logged.of do
  let b ← data.window offset 2
  return (.foreign cls (ofBigEndian (b.drop 1)), 2)

def unpackUsedEnum : Unpacker := fun data offset =>
  Logged.of (unpackNumber WireType.ofUsedEnum.format data offset)

def RegisteredType.unpack (known : RegisteredType) (own : Text → Unpacker) : Unpacker := fun data offset =>
  match known.codec with
  | .usedEnum => unpackUsedEnum data offset
  | .byte => Logged.of ((data.byteAt offset).map fun b => (.integer b.toNat, 1))
  | .own =>
    match known.type with
    | .ofUnit cls => own cls data offset
    | .foreign cls => unpackForeign cls data offset
    | .integer => Logged.fail (.noClassAttribute "int" "unpack")

/-- Unpacks a value of a named type; `codec` is what unpacks values of a registered type, whatever that is. -/
def unpackBy {γ : Type} (registry : Registry γ) (codec : RegisteredType γ → Unpacker) (type : Text) :
    Unpacker := fun data offset =>
  match Builtin.encoding? type with
  | some (.number format) =>
    Logged.of ((unpackNumber format data offset).mapError (asTruncated type offset))
  | some .character =>
    Logged.of (((data.window offset 2).mapError (asTruncated type offset)).map fun b =>
      (.text [CodePoint.ofNat (ofBigEndian b)], 2))
  | some .text => Logged.of ((Sized.readText data offset).map fun (t, size) => (.text t, size))
  | some .bytes => Logged.of ((Sized.readBytes data offset).map fun (b, size) => (.bytes b, size))
  | some .texts =>
    Logged.of ((Sized.readTexts data offset).map fun (ts, size) => (.list (ts.map .text), size))
  | some .unsent => Logged.fail (.noCodec type)
  | none =>
    match registry.lookup type with
    | none => Logged.fail (.noCodec type)
    | some known => (codec known data offset).mapFault (asTruncated type offset)

/-- Unpacks a value of a named type; `own` unpacks values of the classes of the unit. -/
def unpackAs (registry : Registry) (own : Text → Unpacker) : Text → Unpacker :=
  unpackBy registry fun known => known.unpack own

/-- Fault where a byte is lacking in a list of arguments, which is read through a view of the bytes. -/
def inView : Fault → Fault
  | .noByte => .noByteInView
  | f => f

/-- Unpacks values one after the other; `unpack` unpacks one by the name of its type. -/
def unpackEach (unpack : Text → Unpacker) : List Text → Bytes → Int → Logged (List Value × Nat)
  | [], _, _ => return ([], 0)
  | type :: rest, data, offset => do
    let (v, size) ← (unpack type data offset).mapFault inView
    let (later, sizes) ← unpackEach unpack rest data (offset + size)
    return (v :: later, size + sizes)

namespace RecordStep

def readNumbers : List (Parameter × NumberFormat) → Bytes → List Value
  | [], _ => []
  | (_, format) :: rest, b => format.read (b.take format.size) :: readNumbers rest (b.drop format.size)

/-- Unpacks the values of a step of a record; `own` unpacks values of the classes of the unit, unless the
function that unpacks has their name for something else. -/
def unpack (i : Interface) (registry : Registry) (own : Text → Unpacker) (r : RecordDecl) (data : Bytes)
    (offset : Int) : RecordStep → Logged (List Value × Nat)
  | .numbers run => do
    let size := (run.map (·.2.size)).sum
    let b ← Logged.of (data.window offset size)
    return (readNumbers run b, size)
  | .single a codec => do
    let (v, size) ← match codec with
      | .own =>
        let cls := (i.hint none a.type).spelling
        if r.locals.contains cls then Logged.fail (.noAttribute cls "unpack") else own cls data offset
      | .used => unpackUsedEnum data offset
      | .named => unpackAs registry own a.type data offset
    return ([v], size)

def unpackAll (i : Interface) (registry : Registry) (own : Text → Unpacker) (r : RecordDecl) (data : Bytes) :
    List RecordStep → Int → Logged (List Value × Nat)
  | [], _ => return ([], 0)
  | step :: rest, offset => do
    let (first, size) ← step.unpack i registry own r data offset
    let (later, sizes) ← unpackAll i registry own r data rest (offset + size)
    return (first ++ later, size + sizes)

end RecordStep

namespace Module

def unpackOwn (m : Module) (registry : Registry) : Nat → Text → Unpacker
  | 0, _, _, _ => Logged.fail .tooDeep
  | fuel + 1, cls, data, offset =>
    let own := m.unpackOwn registry fuel
    match m.definition? cls with
    | some (.enum plan) => plan.unpack cls data offset
    | some (.record r) => do
      let (values, size) ← RecordStep.unpackAll m.interface registry own r data
        (m.interface.recordSteps r.attributes) offset
      let v ← Logged.of (m.record cls r values)
      return (v, size)
    | _ => Logged.fail (.noClassAttribute cls "unpack")

/-- Deep enough for records that do not hold themselves, or take bytes on the way. -/
def unpackDepth (m : Module) (data : Bytes) : Nat := (m.interface.records.length + 2) * (2 * data.length + 2)

def unpack (m : Module) (registry : Registry) (type : Text) : Unpacker := fun data offset =>
  unpackAs registry (m.unpackOwn registry (m.unpackDepth data)) type data offset

abbrev unpackArguments (m : Module) (registry : Registry) : List Text → Bytes → Int → Logged (List Value × Nat) :=
  unpackEach (m.unpack registry)

end Module
end Counterpart
