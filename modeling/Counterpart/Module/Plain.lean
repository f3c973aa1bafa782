import Counterpart.Module.Sound
import Counterpart.Script.Inventory

/-!
Plain modules. A sound module is plain if its names mean nothing else, not even in the classes that all modules use, its
types are known, and each of its defaults is one constant: no line says more than its declaration, and the classes of
the module can be told from the declarations alone.
-/
namespace Counterpart

/-! ## Names -/

/-- The last letter is no underscore. -/
def Text.isPlainWord (name : Text) : Bool := name.isAsciiName && name.getLast? != some (CodePoint.ofChar '_')

namespace PythonModule

/-- The names that mean something to every class, or to what all sides of classes share. -/
def classNames : List Text :=
  importedNames ++ (["self", "mro", "register", "node", "set_property", "object_type"] : List Text)

def enumNames : List Text :=
  classNames ++
    (["name", "value", "names", "values", "pack", "unpack", "convert", "from_wire", "real", "imag", "numerator",
     "denominator", "conjugate", "bit_length", "bit_count", "to_bytes", "from_bytes", "as_integer_ratio"] : List Text)

end PythonModule

/-- The name can be given to something at the top of a module, where it means nothing yet, and no function of a class
has it for something else. -/
def Text.isPlainTitle (name : Text) : Bool :=
  name.isFree && name.isPlainWord && !Script.builtinNames.contains name && !(["cls", "offset"] : List Text).contains name

/-! ## Declarations -/

def EnumDecl.isPlain (e : EnumDecl) : Bool :=
  e.name.isPlainWord && !e.enumerators.isEmpty &&
    e.enumerators.all fun member =>
      member.name.isPlainWord && !PythonModule.enumNames.contains member.name &&
        !Script.builtinNames.contains member.name &&
        match member.value with
        | .number i => i.natAbs < 2 ^ 64
        | _ => false

namespace DefaultExpr

mutual
def isPlain : DefaultExpr → Bool
  | .integer digits =>
    digits.all (fun c => c.val < 128) && digits.length ≤ Numeral.digitLimit &&
      integerSize (digits.drop (signOf digits).length) < 10 ^ Numeral.digitLimit
  | .real digits => digits.all fun c => c.val < 128
  | .quoted source =>
    !((source.dropWhile (· ≠ CodePoint.ofChar '"')).drop 1).dropLast.contains (CodePoint.ofChar '"')
  | .construct _ args => arePlain args
  | .member .. | .truth _ | .null | .emptyTexts => true

def arePlain : List DefaultExpr → Bool
  | [] => true
  | e :: rest => isPlain e && arePlain rest
end

end DefaultExpr

namespace Interface

def groundedIn (i : Interface) (names : List Text) : List Text :=
  (i.records.filter fun r => r.attributes.all fun a => (i.record? a.type).isNone || names.contains a.type).map (·.name)

def isGrounded (i : Interface) : Bool :=
  (Nat.repeat i.groundedIn i.records.length []).length = i.records.length

/-- The attributes of the record have known types, and names that mean nothing else at the top of the module, not even
where they are unpacked. -/
def isPlainRecord (i : Interface) (titles : List Text) (r : RecordDecl) : Bool :=
  r.attributes.all fun a =>
    a.name.isPlainWord && !PythonModule.enumNames.contains a.name && !Script.builtinNames.contains a.name &&
      !titles.contains ("v_" ++ a.name) && i.isKnownType none a.type

/-- The parameters of an operation have plain names, no two the same, and known types. -/
def isPlainOperation (i : Interface) (c : ClassDecl) (op : Operation) : Bool :=
  op.name.isPlainWord && i.isKnownType (some c) op.returnType && decide op.paramNames.Nodup &&
    op.params.all fun p =>
      p.name.isPlainWord && !PythonModule.classNames.contains p.name && i.isKnownType (some c) p.type

def isPlainProperty (i : Interface) (c : ClassDecl) (p : Property) : Bool :=
  p.name.isPlainWord && i.isKnownType (some c) p.type && (i.default (some c) p.type p.default).1.isPlain

/-- The members of the class are plain, and none has the name of an enum. -/
def isPlainClass (i : Interface) (c : ClassDecl) : Bool :=
  c.name.isPlainWord && c.enums.all (·.isPlain) && c.properties.all (i.isPlainProperty c) &&
    c.signals.all (i.isPlainOperation c) && c.slots.all (i.isPlainOperation c) &&
    (memberNames c).all fun name =>
      !PythonModule.classNames.contains name && !(i.emittedEnums.any fun (emitted, _) => emitted = name)

def isPlainUsedEnum (i : Interface) (name : Text) : Bool :=
  name.isSymbol && name.all (fun c => c.val < 128) && !Builtin.isBuiltin name &&
    !(i.emittedEnums.any fun (emitted, _) => emitted = name) && (i.record? name).isNone &&
    (i.enum? none name).isNone && !i.classes.any (·.hasEnum name)

end Interface

def Module.isPlain (m : Module) : Bool :=
  let i := m.interface
  let titles := m.definitions.map (·.1)
  m.isSound && titles.all (fun title => title.isPlainTitle && !Builtin.isBuiltin title) && decide titles.Nodup &&
    i.enums.all (·.isPlain) && i.records.all (i.isPlainRecord titles) && i.isGrounded && i.classes.all i.isPlainClass &&
    i.usedEnums.all i.isPlainUsedEnum && decide (i.usedEnums.map Text.identifier).Nodup

end Counterpart
