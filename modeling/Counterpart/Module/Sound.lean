import Counterpart.Module.Construct
import Counterpart.Object.Lineage

/-!
Sound modules. A module is sound if it can be loaded and none of its names takes the place of something that its classes
are made with. Two of its classes may still have one name.
-/
namespace Counterpart

/-! ## Names -/

/-- An ASCII letter, then letters, digits and underscores. -/
def Text.isAsciiName : Text → Bool
  | [] => false
  | c :: rest => c.isAsciiLetter && rest.all fun d => d.val < 128 && d.isWord

/-- ASCII characters that mean nothing between double quotes. -/
def Text.isPlainText (t : Text) : Bool :=
  t.all fun c => 32 ≤ c.val && c.val < 127 && c != CodePoint.ofChar '"' && c != CodePoint.ofChar '\\'

namespace PythonModule

def importedNames : List Text :=
  ["annotations", "_struct", "abstractmethod", "dataclass", "field", "Any", "ClassVar", "Self", "SourceApiMap",
   "register_type", "Channel", "PendingReply", "ReplicaBase", "Signal", "SourceBase", "Record", "RemoteEnum",
   "pack_value", "unpack_value", "InvocationKind"]

/-- The builtin names that modules use. -/
def builtinNames : List Text := ["bool", "bytearray", "bytes", "classmethod", "float", "int", "list", "str", "super"]

/-- The names that mean something in the class of an enum. -/
def codecNames : List Text := ["classmethod", "pack", "unpack", "convert", "from_wire", "mro"]

/-- The names that mean something in the sides of a class, or to those who use them. -/
def sideNames : List Text :=
  ["Signal", "abstractmethod", "InvocationKind", "self", "node", "set_property", "object_type"]

end PythonModule

/-- The name can be given to something at the top of a module. -/
def Text.isFree (name : Text) : Bool :=
  name.isAsciiName && !reservedWords.contains name && !PythonModule.importedNames.contains name &&
    !PythonModule.builtinNames.contains name && name ≠ "self"

/-! ## Declarations -/

def EnumDecl.isSound (e : EnumDecl) : Bool :=
  e.name.isAsciiName && decide (e.enumerators.map (·.name.unreserved)).Nodup &&
    e.enumerators.all fun member =>
      member.name.isAsciiName && !PythonModule.codecNames.contains member.name && member.value ≠ .absent &&
        member.value.toInt.natAbs < 10 ^ Numeral.digitLimit

namespace DefaultExpr

mutual
/-- The expression can be read, and hides nothing of what follows on its line. -/
def isClosed : DefaultExpr → Bool
  | .integer digits => isReadable digits
  | .real digits => digits.all fun c => c.val < 128
  | .quoted source =>
    match Piece.ofSource source with
    | .ok p => !p.isOpen
    | .error _ => false
  | .construct _ args => areClosed args
  | .member .. | .truth _ | .null | .emptyTexts => true

def areClosed : List DefaultExpr → Bool
  | [] => true
  | e :: rest => isClosed e && areClosed rest
end

end DefaultExpr

namespace Interface

/-- The type is builtin, or the unit declares it, or says that it is declared elsewhere. -/
def isKnownType (i : Interface) (cls? : Option ClassDecl) (type : Text) : Bool :=
  Builtin.isBuiltin type || i.usedEnums.contains type || (i.enum? cls? type).isSome || (i.record? type).isSome

/-- The type is known, or cannot be the name of a class: it is only written down then. -/
def isSoundType (i : Interface) (cls? : Option ClassDecl) (type : Text) : Bool :=
  i.isKnownType cls? type || (!type.isSymbol && type.isPlainText)

def isSoundRecord (i : Interface) (titles : List Text) (r : RecordDecl) : Bool :=
  decide (r.attributes.map (·.fieldName)).Nodup && r.attributes.all fun a =>
    a.name.isAsciiName && !PythonModule.importedNames.contains a.name && !PythonModule.builtinNames.contains a.name &&
      !(["pack", "unpack"] : List Text).contains a.name && !titles.contains a.fieldName && i.isSoundType none a.type

def isSoundSlot (op : Operation) : Bool :=
  op.name.isAsciiName && decide (op.paramNames.map Text.unreserved).Nodup &&
    op.paramNames.all fun name => name.isAsciiName && !(["self", "InvocationKind"] : List Text).contains name

def memberNames (c : ClassDecl) : List Text :=
  c.enums.map (·.name) ++ c.ordinals.signals.map (·.name) ++
    c.properties.flatMap (fun p => [p.name, p.setterName]) ++ c.slots.map (·.name)

/-- The default of a property is closed. Enums and signals have names that are not reserved, and no enum has the name of
a look-up or of another enum where that is made. -/
def isSoundClass (i : Interface) (c : ClassDecl) : Bool :=
  c.name.isAsciiName &&
    c.enums.all (fun e =>
      e.isSound && !reservedWords.contains e.name && (Keyed.get? e.name Layer.lookUps).isNone &&
        !(i.emittedEnums.any fun (emitted, _) => emitted = e.name)) &&
    c.properties.all (fun p => p.name.isAsciiName && (i.default (some c) p.type p.default).1.isClosed) &&
    c.signals.all (fun s => s.name.isAsciiName && !reservedWords.contains s.name) && c.slots.all isSoundSlot &&
    c.mentions.all (i.isSoundType (some c)) && (memberNames c).all fun name => !PythonModule.sideNames.contains name

end Interface

def Module.isSound (m : Module) : Bool :=
  let i := m.interface
  let titles := m.definitions.map (·.1)
  titles.all Text.isFree && i.enums.all (·.isSound) && i.records.all (i.isSoundRecord titles) &&
    i.classes.all i.isSoundClass && i.usedEnums.all Text.isPlainText &&
    i.directives.all fun d => d.all fun c => 32 ≤ c.val && c.val < 127

end Counterpart
