import Counterpart.Default.Resolve
import Counterpart.Emit.Mode
import Counterpart.Interface.RecordPlan

/-!
Python modules. A module starts with what all classes share: enums, records and the registration of
types. Then come the replica and the source side of each class, which do not depend on each other.
-/
namespace Counterpart.PythonModule

/-! ## Pieces of lines -/

def quotedList (names : List Text) : Text := Text.join ", " (names.map Text.doubleQuoted)

def numberTuple (numbers : List Nat) : Text := Quoted.tuple (numbers.map Text.ofNat)

def nameTuple (names : List Text) : Text := Quoted.tuple (names.map Quoted.text)

def argumentTuple (op : Operation) : Text := Quoted.tuple (op.paramNames.map Text.unreserved)

def isLineBreak (c : CodePoint) : Bool :=
  (10 ≤ c.val && c.val ≤ 13) || (28 ≤ c.val && c.val ≤ 30) || c.val == 0x85 || c.val == 0x2028 ||
    c.val == 0x2029

def splitLines : Text → List Text
  | [] => [[]]
  | [c] => if isLineBreak c then [[], []] else [[c]]
  | c :: d :: t =>
    if isLineBreak c then
      if c.val == 13 && d.val == 10 then [] :: splitLines t else [] :: splitLines (d :: t)
    else
      match splitLines (d :: t) with
      | line :: rest => (c :: line) :: rest
      | [] => [[c]]

/-- The lines of a function body, eight spaces deep; empty lines stay empty. -/
def bodyLines (lines : List Text) : List Text :=
  (lines.flatMap splitLines).map fun line => if line.isEmpty then [] else "        " ++ line

/-! ## The shared part -/

def supportNames : List (Text × Text) :=
  [("descriptor", "SourceApiMap"), ("registry", "register_type"),
   ("runtime", "Channel, PendingReply, ReplicaBase, Signal, SourceBase"),
   ("serialization", "Record, RemoteEnum, pack_value, unpack_value"), ("types", "InvocationKind")]

/-- The support package is found next to the module: its name has no point in it. -/
def isLocal (support : Text) : Bool := !support.contains '.'

def supportImports (support : Text) : List Text :=
  supportNames.map fun (module, names) => Text.concat ["from ", support, ".", module, " import ", names]

def packaged : Text := "repgen.proto"

def head (support : Text) : List Text :=
  let near (line : Text) : List Text := if isLocal support then [line] else []
  Text.blocks [
    ["\"\"\"Generated remote object interfaces. Do not edit.\"\"\"", "",
     "from __future__ import annotations", "", "import struct as _struct"],
    near "import sys",
    ["from abc import abstractmethod", "from dataclasses import dataclass, field"],
    near "from pathlib import Path",
    ["from typing import Any, ClassVar, Self", ""],
    if isLocal support then
      Text.blocks [
        ["_runtime_path = str(Path(__file__).parent)",
         "_added_to_path = _runtime_path not in sys.path",
         "if _added_to_path:", "    sys.path.insert(0, _runtime_path)", "try:"],
        (supportImports support).map fun line => "    " ++ line,
        ["finally:", "    if _added_to_path:", "        sys.path.remove(_runtime_path)"]]
    else supportImports support]

def directive (d : Text) : Text := if Text.startsWith "#" d then d else "# " ++ d

def enumClass (name : Text) (p : EnumPlan) : List Text :=
  let format := ">" ++ p.wire.format.letter
  Text.blocks [
    [Text.concat ["class ", name, "(RemoteEnum):"]],
    p.values.map fun e => Text.concat ["    ", e.name.unreserved, " = ", e.value.text],
    ["    def pack(self) -> bytes:",
     Text.concat ["        return _struct.pack(\"", format, "\", self.value)"], "",
     "    @classmethod",
     "    def unpack(cls, _data: bytes | memoryview, offset: int = 0) -> tuple[Self, int]:",
     Text.concat ["        (raw,) = _struct.unpack_from(\"", format, "\", _data, offset)"],
     Text.concat ["        return cls.from_wire(raw), ", Text.ofNat p.wire.size]]]

def usedEnum (name : Text) : List Text :=
  let format := ">" ++ WireType.ofUsedEnum.format.letter
  [Text.concat ["def _pack_", name.identifier, "(value: int) -> bytes:"],
   Text.concat ["    return _struct.pack(\"", format, "\", int(value))"], "", "",
   Text.concat ["def _unpack_", name.identifier,
     "(_data: bytes | memoryview, offset: int = 0) -> tuple[int, int]:"],
   Text.concat ["    return _struct.unpack_from(\"", format, "\", _data, offset)[0], ",
     Text.ofNat WireType.ofUsedEnum.size]]

def packSingle (field : Parameter) : AttributeCodec → Text
  | .own => Text.concat ["_buf.extend(self.", field.name.unreserved, ".pack())"]
  | .used =>
    Text.concat ["_buf.extend(_pack_", field.type.identifier, "(self.", field.name.unreserved, "))"]
  | .named =>
    Text.concat ["_buf.extend(pack_value(\"", field.type, "\", self.", field.name.unreserved, "))"]

def unpackCall (i : Interface) (field : Parameter) : AttributeCodec → Text
  | .own => (i.hint none field.type).spelling ++ ".unpack(_data, _o)"
  | .used => Text.concat ["_unpack_", field.type.identifier, "(_data, _o)"]
  | .named => Text.concat ["unpack_value(\"", field.type, "\", _data, _o)"]

def formatLetters (fields : List (Parameter × NumberFormat)) : Text :=
  Text.concat (fields.map (·.2.letter))

def packStep : RecordStep → Text
  | .numbers fields =>
    Text.concat ["_buf.extend(_struct.pack(\">", formatLetters fields, "\", ",
      Text.join ", " (fields.map fun (f, _) => "self." ++ f.name.unreserved), "))"]
  | .single field codec => packSingle field codec

def unpackStep (i : Interface) : RecordStep → List Text
  | .numbers fields =>
    let names := Text.join ", " (fields.map fun (f, _) => "v_" ++ f.name)
    [Text.concat [names, if fields.length = 1 then "," else "", " = _struct.unpack_from(\">",
       formatLetters fields, "\", _data, _o)"],
     "_o += " ++ Text.ofNat (fields.map (·.2.size)).sum]
  | .single field codec =>
    [Text.concat ["v_", field.name, ", _n = ", unpackCall i field codec], "_o += _n"]

def packBody (i : Interface) (r : RecordDecl) : List Text :=
  if r.attributes.isEmpty then ["return b\"\""]
  else
    Text.blocks [["_buf = bytearray()"], (i.recordSteps r.attributes).map packStep,
      ["return bytes(_buf)"]]

def unpackBody (i : Interface) (r : RecordDecl) : List Text :=
  if r.attributes.isEmpty then ["return cls(), 0"]
  else
    Text.blocks [["_o = offset"], (i.recordSteps r.attributes).flatMap (unpackStep i),
      [Text.concat ["return cls(", Text.join ", " (r.attributes.map fun a => "v_" ++ a.name),
        "), _o - offset"]]]

def recordClass (i : Interface) (r : RecordDecl) : List Text :=
  Text.blocks [
    ["@dataclass", Text.concat ["class ", r.name, "(Record):"]],
    r.attributes.map fun a => Text.concat ["    ", a.name.unreserved, ": ",
      (i.hint none a.type).spelling, i.attributeDefault a.type],
    ["    def pack(self) -> bytes:"], bodyLines (packBody i r),
    ["", "    @classmethod",
     "    def unpack(cls, _data: bytes | memoryview, offset: int = 0) -> tuple[Self, int]:"],
    bodyLines (unpackBody i r)]

def registerLine (r : Registration) : Text :=
  match r.packer?, r.unpacker? with
  | some packer, some unpacker =>
    Text.concat ["    register_type(\"", r.name, "\", ", r.symbol, ", ", packer, ", ", unpacker, ")"]
  | _, _ => Text.concat ["    register_type(\"", r.name, "\", ", r.symbol, ")"]

def registerFunction (i : Interface) : List Text :=
  "def _register_types() -> None:" ::
    match i.registrations with
    | [] => ["    pass"]
    | registrations => registrations.map registerLine

def prelude (i : Interface) (support : Text) : List Text :=
  Text.blocks [
    head support, i.directives.map directive, [""],
    i.emittedEnums.flatMap fun (name, p) => enumClass name p, [""],
    i.usedEnums.flatMap usedEnum, i.records.flatMap (recordClass i), registerFunction i]

/-! ## The sides of a class -/

def enumAliases (i : Interface) (c : ClassDecl) : List Text :=
  c.enums.map fun e => Text.concat ["    ", e.name, " = ", i.qualify (some c) e.name]

def signalLines (i : Interface) (c : ClassDecl) : List Text :=
  c.ordinals.signals.map fun s =>
    Text.concat ["    ", s.name, " = Signal(", quotedList (i.signalTypes c s), ")"]

def paramList (i : Interface) (c : ClassDecl) (op : Operation) : Text :=
  Text.concat (op.params.map fun p =>
    Text.concat [", ", p.name.unreserved, ": ", (i.hint (some c) p.type).spelling])

def spelled (i : Interface) (c : ClassDecl) (type : Text) : Text := (i.hint (some c) type).spelling

def defaultText (i : Interface) (c : ClassDecl) (p : Property) : Text :=
  (i.default (some c) p.type p.default).1.text

def replicaProperty (i : Interface) (c : ClassDecl) (n : NumberedProperty) : List Text :=
  let p := n.property
  let ordinal := Text.ofNat n.ordinal
  [Text.concat ["    def ", p.name.unreserved, "(self) -> ", spelled i c p.type, ":"],
   Text.concat ["        return self._property_as(", ordinal, ", ", i.checkType (some c) p.type, ", \"",
     p.name, "\")"]] ++
  if p.writable then
    [Text.concat ["    def ", p.setterName, "(self, ", p.name.unreserved, ": ", spelled i c p.type,
       ") -> None:"],
     Text.concat ["        self._send(InvocationKind.WRITE_PROPERTY, ", ordinal, ", (",
       p.name.unreserved, ",))"]]
  else []

def replicaSlot (i : Interface) (c : ClassDecl) (m : NumberedMethod) : List Text :=
  let op := m.slot
  let opening := Text.concat ["    def ", op.name.unreserved, "(self", paramList i c op, ") -> "]
  let ordinal := Text.ofNat m.ordinal
  if op.isVoid then
    [opening ++ "None:",
     Text.concat ["        self._send(InvocationKind.INVOKE_METHOD, ", ordinal, ", ", argumentTuple op, ")"]]
  else
    [Text.concat [opening, "PendingReply[", spelled i c op.returnType, "]:"],
     "        return self._send_with_reply(",
     Text.concat ["            InvocationKind.INVOKE_METHOD, ", ordinal, ", ", argumentTuple op, ", \"",
       op.returnType, "\""],
     "        )"]

def replica (i : Interface) (c : ClassDecl) : List Text :=
  let o := c.ordinals
  let table (name : Text) (kind : MemberKind) : Text :=
    Text.concat ["    _", name, "_table_: ClassVar[tuple[int, ...]] = ", numberTuple (o.table kind)]
  Text.blocks [
    [Text.concat ["class ", c.name, "Replica(ReplicaBase):"],
     Text.concat ["    _remote_type_: ClassVar[str] = \"", c.name, "\""],
     table "property" .property, table "signal" .signal, table "method" .method],
    enumAliases i c, signalLines i c,
    ["    def __init__(self, node: Channel | None = None, name: str = \"\") -> None:",
     "        super().__init__(node, name)", "        _register_types()", "        self._initialize()",
     "", "    def _initialize(self) -> None:"],
    if c.properties.isEmpty then ["        self._set_properties([])"]
    else
      Text.blocks [
        ["        self._set_properties(", "            ["],
        c.properties.map fun p => Text.concat ["                ", defaultText i c p, ","],
        ["            ]", "        )"]],
    o.properties.flatMap (replicaProperty i c), o.methods.flatMap (replicaSlot i c)]

def abstractMethod (name params result : Text) : List Text :=
  ["    @abstractmethod", Text.concat ["    def ", name, "(self", params, ") -> ", result, ": ..."]]

def setterParam (i : Interface) (c : ClassDecl) (p : Property) : Text :=
  Text.concat [", ", p.name.unreserved, ": ", spelled i c p.type]

def source (i : Interface) (c : ClassDecl) : List Text :=
  Text.blocks [
    [Text.concat ["class ", c.name, "Source(SourceBase):"],
     Text.concat ["    _remote_type_: ClassVar[str] = \"", c.name, "\""],
     Text.concat ["    _remote_properties_: ClassVar[tuple[str, ...]] = ",
       nameTuple (c.properties.map (·.name))]],
    enumAliases i c, signalLines i c,
    ["    def __init__(self) -> None:", "        _register_types()"],
    c.properties.flatMap fun p => abstractMethod p.name.unreserved [] (spelled i c p.type),
    (c.properties.filter (·.writable)).flatMap fun p =>
      abstractMethod p.setterName (setterParam i c p) "None",
    c.slots.flatMap fun s => abstractMethod s.name.unreserved (paramList i c s)
      (if s.isVoid then "None" else spelled i c s.returnType)]

def simpleSource (i : Interface) (c : ClassDecl) : List Text :=
  Text.blocks [
    [Text.concat ["class ", c.name, "SimpleSource(", c.name, "Source):"],
     "    def __init__(self) -> None:", "        super().__init__()"],
    c.properties.map fun p => Text.concat ["        self._", p.name, ": ", spelled i c p.type, " = ",
      defaultText i c p],
    c.properties.flatMap fun p =>
      [Text.concat ["    def ", p.name.unreserved, "(self) -> ", spelled i c p.type, ":"],
       "        return self._" ++ p.name],
    (c.properties.filter (·.writable)).flatMap fun p =>
      [Text.concat ["    def ", p.setterName, "(self", setterParam i c p, ") -> None:"],
       Text.concat ["        if ", p.name.unreserved, " != self._", p.name, ":"],
       Text.concat ["            self._", p.name, " = ", p.name.unreserved],
       Text.concat ["            self.", p.changeName, ".emit(self._", p.name, ")"]]]

def listAttribute (name : Text) (items : List Text) : List Text :=
  Text.blocks [[Text.concat ["        self.", name, " = ["]],
    items.map fun item => Text.concat ["            ", item, ","], ["        ]"]]

def whenAny {α : Type} (items : List α) (lines : List Text) : List Text :=
  if items.isEmpty then [] else lines

def indexCall (function name : Text) : Text := Text.concat ["self.", function, "(\"", name, "\")"]

def typeIds (i : Interface) (c : ClassDecl) (types : List Text) : Text :=
  Text.concat ["self._type_ids(", quotedList (types.map (i.qualify (some c))), ")"]

def sourceApi (i : Interface) (c : ClassDecl) : List Text :=
  let o := c.ordinals
  Text.blocks [
    [Text.concat ["class ", c.name, "SourceAPI(SourceApiMap):"]], enumAliases i c,
    ["    def __init__(self, object_type: type) -> None:",
     Text.concat ["        super().__init__(object_type, \"", c.name, "\")"],
     "        _register_types()"],
    whenAny o.properties (listAttribute "_properties" (Text.ofNat o.properties.length ::
      o.properties.map fun p => indexCall "_property_index" p.property.name)),
    (c.properties.filter (·.writable)).map fun p => "        " ++ indexCall "_require_method" p.setterName,
    whenAny o.signals (Text.blocks [
      listAttribute "_signals" (Text.ofNat o.signals.length ::
        o.signals.map fun s => indexCall "_signal_index" s.name),
      listAttribute "_signal_arg_types" (o.signals.map fun s => typeIds i c s.paramTypes),
      listAttribute "_signal_signatures" (o.signals.map fun s => s.signature.doubleQuoted)]),
    whenAny o.changes [Text.concat ["        self._property_change_index = [",
      Text.join ", " (o.changes.map fun s => Text.ofNat (s.property?.getD 0 + 1)), "]"]],
    whenAny o.methods (Text.blocks [
      listAttribute "_methods" (Text.ofNat o.methods.length ::
        o.methods.map fun m => indexCall "_method_index" m.slot.name),
      listAttribute "_method_arg_types" (o.methods.map fun m => typeIds i c m.slot.paramTypes),
      listAttribute "_method_signatures" (o.methods.map fun m => m.slot.signature.doubleQuoted),
      listAttribute "_method_return_types" (o.methods.map fun m => m.slot.returnType.doubleQuoted)])]

def sourceSide (i : Interface) (c : ClassDecl) : List Text :=
  source i c ++ simpleSource i c ++ sourceApi i c

def sides (i : Interface) (mode : Mode) (c : ClassDecl) : List Text :=
  (if mode.hasReplica then replica i c else []) ++ (if mode.hasSource then sourceSide i c else [])

def render (i : Interface) (mode : Mode) (support : Text) : Text :=
  Text.lines ((prelude i support ++ i.classes.flatMap (sides i mode)).map Text.shown)

def classWarnings (i : Interface) (c : ClassDecl) : List DefaultWarning :=
  c.properties.filterMap fun p => (i.default (some c) p.type p.default).2

def sideWarnings (i : Interface) (mode : Mode) (c : ClassDecl) : List DefaultWarning :=
  (if mode.hasReplica then classWarnings i c else []) ++
  (if mode.hasSource then classWarnings i c else [])

def warnings (i : Interface) (mode : Mode) : List DefaultWarning := i.classes.flatMap (sideWarnings i mode)

end Counterpart.PythonModule
