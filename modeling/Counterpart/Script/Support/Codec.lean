import Counterpart.Script.Evaluate
import Counterpart.Script.Native.Struct
import Counterpart.Script.Support.Replica

/-!
Records and enums as bytes, and the types that are registered by name.
-/
namespace Counterpart.Script

variable {σ α : Type} (id name types type data value offset : Obj)

def serializationError (pieces : List Text) : Run σ α := fail "SerializationError" (Text.concat pieces)

/-! ## Registered types -/

def builtinTypeId : Run σ (Option Nat) := do
  let _ ← hashVia name
  return (← textOf? name).bind Builtin.typeId?

def codecFor : Run σ (Option Obj) := do entry? name (← get).codecs

def registerType (pack unpack : Obj) : Run σ Obj := do
  if let some id ← builtinTypeId name then return .int id
  let existing? ← codecFor name
  if let some codec := existing? then
    if (← getAttr codec "type").same type then return ← getAttr codec "type_id"
  let id ← existing?.elim (do return .int (1024 + (← get).codecs.length)) (getAttr · "type_id")
  let pack ← match pack with
    | .none => newObject "function" (.function
        { name := "<lambda>", qualname := "register_type.<locals>.<lambda>", slots := [selfSlot "value"]
          body := .native "repgen.proto.registry" "packed" [] })
    | f => pure f
  let unpack ← match unpack with
    | .none => getAttr type "unpack"
    | f => pure f
  let codec ← newWith "TypeCodec" .nothing
    [("name", name), ("type", type), ("type_id", id), ("pack", pack), ("unpack", unpack)]
  let codecs ← putEntry name codec (← get).codecs
  modify fun w => { w with codecs }
  return id

def typeId : Run σ Obj := do
  let some id ← builtinTypeId name | (← codecFor name).elim (return .int (-1)) (getAttr · "type_id")
  return .int id

def codecOfId (id : Obj) : Entries → Run σ (Option Obj)
  | [] => return none
  | (_, codec) :: rest => do
    if ← truthOf (← compareObjs .eq (← getAttr codec "type_id") id) then return some codec
    codecOfId id rest

def typeNameOf : Run σ Obj := do
  let count : Int := Builtin.names.length
  if ← (truthOf (← compareObjs .le (.int 0) id)) <&&> (do truthOf (← compareObjs .lt id (.int count))) then
    getItem (.tuple (Builtin.names.map .text)) id
  else (← codecOfId id (← get).codecs).elim (return .text []) (getAttr · "name")

def registryRoutines : Routines σ :=
  [("register_type", fun args => registerType (nth args 0) (nth args 1) (nth args 2) (nth args 3)),
   ("packed", of1 (callMethod · "pack" [])),
   ("lookup", of1 fun name => do return (← codecFor name).getD .none),
   ("type_id", of1 typeId),
   ("type_name", of1 typeNameOf),
   ("is_builtin", of1 fun name => do return .truth (← builtinTypeId name).isSome),
   ("registered_types", fun _ => do newList ((← get).codecs.map (·.1)))]

/-! ## Values as bytes -/

def packLength (length? : Option Nat) : Run σ Bytes := do
  packBigFirst .uint32 (.int ((length?.getD 0xFFFFFFFF : Nat) : Int))

def packString : Run σ Obj := do
  match value with
  | .none => .bytes <$> packLength none
  | value =>
    let encoded ← callMethod value "encode" [.text "utf-16-be"]
    operate .add (.bytes (← packLength (some (← lengthOf encoded)))) encoded

def packByteArray : Run σ Obj := do
  match value with
  | .none => .bytes <$> packLength none
  | value => operate .add (.bytes (← packLength (some (← lengthOf value)))) (← make "bytes" [value])

def codecOf : Run σ Obj := do
  (← codecFor type).getDM do serializationError ["no codec for type ", ← shownIn type]

def travelForm? (name : Text) : Option NumberFormat :=
  match Builtin.encoding? name with
  | some (.number f) => some f
  | some .character => some .uint16
  | _ => none

def packValue : Run σ Obj := do
  let _ ← hashVia type
  let name := (← textOf? type).getD []
  match travelForm? name with
  | some f =>
    let value ← if name = "QChar" && (← isInstance value (.ref (known "str"))) then
      call (builtin "ord") [value] else pure value
    attempt (do return .bytes (← packBigFirst f value)) ["struct.error"] fun e => do
      serializationError ["cannot pack ", ← reprVia value, " as ", name, ": ", ← strOf e]
  | none =>
    if name = "QString" then packString value
    else if name = "QByteArray" then packByteArray value
    else if name = "QStringList" then
      let items ← itemsOf value
      let parts ← items.mapM packString
      operate .add (.bytes (← packLength (some items.length))) (← callMethod (.bytes []) "join" [← newList parts])
    else call (← getAttr (← codecOf type) "pack") [value]

/-! ## Bytes as values -/

def unpackLength : Run σ (Option Nat) := do
  let length ← attempt (unpackBigFirst .uint32 data offset) ["struct.error"] fun _ => do
    serializationError ["truncated length prefix at offset ", ← shownIn offset]
  let .int i := length | return none
  return if i = 0xFFFFFFFF then none else some i.toNat

def takeBytes (length : Nat) : Run σ Obj := do
  let stop ← operate .add offset (.int length)
  let present ← lengthOf data
  if ← truthOf (← compareObjs .gt stop (.int present)) then
    serializationError ["need ", Text.ofNat length, " bytes at offset ", ← shownIn offset, ", have ",
      ← shownIn (← operate .subtract (.int present) offset)]
  make "bytes" [← getItem data (← newObject "slice" (.slice offset stop .none))]

def unpackString : Run σ (Obj × Nat) := do
  let some length ← unpackLength data offset | return (.text [], 4)
  attempt (do
    let content ← takeBytes data (← operate .add offset (.int 4)) length
    return (← callMethod content "decode" [.text "utf-16-be"], 4 + length)) ["UnicodeDecodeError"] fun e => do
      serializationError ["invalid UTF-16 string at offset ", ← shownIn offset, ": ", ← strOf e]

def unpackByteArray : Run σ (Obj × Nat) := do
  let some length ← unpackLength data offset | return (.bytes [], 4)
  return (← takeBytes data (← operate .add offset (.int 4)) length, 4 + length)

def unpackStrings (data offset : Obj) : Nat → Nat → List Obj → Run σ (List Obj × Nat)
  | 0, consumed, items => return (items.reverse, consumed)
  | count + 1, consumed, items => do
    let (item, n) ← unpackString data (← operate .add offset (.int consumed))
    unpackStrings data offset count (consumed + n) (item :: items)

def consumed (action : Run σ (Obj × Nat)) : Run σ Obj := do
  let (v, n) ← action
  return .tuple [v, .int n]

def unpackValue : Run σ Obj := do
  let _ ← hashVia type
  let name := (← textOf? type).getD []
  match travelForm? name with
  | some f =>
    let value ← attempt (unpackBigFirst f data offset) ["struct.error"] fun _ => do
      serializationError ["truncated ", name, " at offset ", ← shownIn offset]
    let value ← if name = "QChar" then call (builtin "chr") [value] else pure value
    return .tuple [value, .int f.size]
  | none =>
    if name = "QString" then consumed (unpackString data offset)
    else if name = "QByteArray" then consumed (unpackByteArray data offset)
    else if name = "QStringList" then
      let count := (← unpackLength data offset).getD 0
      let (items, n) ← unpackStrings data offset count 4 []
      return .tuple [← newList items, .int n]
    else
      let codec ← codecOf type
      attempt (do call (← getAttr codec "unpack") [data, offset]) ["struct.error"] fun _ => do
        serializationError ["truncated ", ← shownIn type, " at offset ", ← shownIn offset]

def pairOf (o : Obj) : Run σ (Obj × Obj) := do
  let items ← splitItems o 2 none
  return (nth items 0, nth items 1)

def packArguments (values : Obj) : Run σ Obj := do
  let (n, m) := (← lengthOf types, ← lengthOf values)
  if n ≠ m then serializationError ["expected ", Text.ofNat n, " arguments, got ", Text.ofNat m]
  let parts ← ((← itemsOf types).zip (← itemsOf values)).mapM fun (t, v) => packValue t v
  callMethod (.bytes []) "join" [← newList parts]

def unpackArguments : Run σ Obj := do
  let (values, consumed) ← (← itemsOf types).foldlM (fun (values, consumed) type => do
    let (v, n) ← pairOf (← unpackValue type data (← operate .add offset consumed))
    return (values ++ [v], ← operateInPlace .add consumed n)) (([], .int 0) : List Obj × Obj)
  return .tuple [← newList values, consumed]

def codecRoutines : Routines σ :=
  [("pack_string", of1 packString),
   ("pack_bytes", of1 packByteArray),
   ("unpack_string", of2 fun data offset => consumed (unpackString data offset)),
   ("unpack_bytes", of2 fun data offset => consumed (unpackByteArray data offset)),
   ("pack_value", of2 packValue),
   ("unpack_value", of3 unpackValue),
   ("pack_arguments", of2 packArguments),
   ("unpack_arguments", of3 unpackArguments)]

def leftOpen (name : Text) : Routine σ := fun _ =>
  fail "NotImplementedError" (name ++ "() must be implemented by generated code")

def recordRoutines : Routines σ := [("pack", leftOpen "pack"), ("unpack", leftOpen "unpack")]

def remoteEnumRoutines : Routines σ :=
  [("convert", of2 fun cls raw => do
      match ← callMethod (← getAttr cls "_value2member_map_") "get" [raw] with
      | .none => return .tuple [(← call (builtin "next") [← call (builtin "iter") [cls]]), .truth false]
      | member => return .tuple [member, .truth true]),
   ("from_wire", of2 fun cls raw => do
      let (member, ok) ← pairOf (← callMethod cls "convert" [raw])
      if !(← truthOf ok) then
        warnOf "Received an invalid enum value for type %s, value = %s" [← getAttr cls "__name__", raw]
      return member),
   ("pack", leftOpen "pack"), ("unpack", leftOpen "unpack")]

end Counterpart.Script
