import Counterpart.Interface.EnumPlan
import Counterpart.Interface.Naming
import Counterpart.Interface.Ordinals
import Counterpart.Keyed
import Counterpart.Wire.Builtin

/-!
What a type name means inside a unit, seen from a class or from none. An enum of a class is known
outside by the name of the class and its own, joined by an underscore.
-/
namespace Counterpart

inductive Hint where
  | truth
  | integer
  | real
  | text
  | bytes
  | texts
  | any
  | named (symbol : Text)
  deriving DecidableEq, Repr

namespace Hint

def spelling : Hint → Text
  | .truth => "bool"
  | .integer => "int"
  | .real => "float"
  | .text => "str"
  | .bytes => "bytes"
  | .texts => "list[str]"
  | .any => "Any"
  | .named symbol => symbol

def ofSymbol (symbol : Text) : Hint :=
  match [truth, integer, real, text, bytes, texts, any].find? fun a => a.spelling = symbol with
  | some a => a
  | none => .named symbol

def ofEncoding : Encoding → Hint
  | .number .truth => .truth
  | .number .single | .number .double => .real
  | .number _ => .integer
  | .character | .text => .text
  | .bytes => .bytes
  | .texts => .texts
  | .unsent => .any

def checkWord : Hint → Text
  | .texts => "list"
  | .any => "None"
  | .named _ => "None"
  | a => a.spelling

end Hint

structure Registration where
  name : Text
  symbol : Text
  /-- For an enum declared elsewhere, the identifier in the names of its two functions. -/
  used? : Option Text := none
  deriving DecidableEq, Repr

namespace Registration

def packer? (r : Registration) : Option Text := r.used?.map ("_pack_" ++ ·)

def unpacker? (r : Registration) : Option Text := r.used?.map ("_unpack_" ++ ·)

end Registration

/-- The types that a class mentions: those of its properties, then for each signal and slot the type
it returns and those of its parameters. -/
def ClassDecl.mentions (c : ClassDecl) : List Text :=
  c.properties.map (·.type) ++
    (c.signals ++ c.slots).flatMap fun op => op.returnType :: op.paramTypes

namespace Interface

def class? (i : Interface) (name : Text) : Option ClassDecl := i.classes.find? (·.name = name)

def record? (i : Interface) (name : Text) : Option RecordDecl := i.records.find? (·.name = name)

def classEnum? (i : Interface) (scope name : Text) : Option EnumDecl :=
  (i.classes.filter (·.name = scope)).findSome? fun c => c.enums.find? (·.name = name)

/-- A type name in two parts at its last `::`; the first is empty when there is none. -/
def splitScope (type : Text) : Text × Text := (Text.cutLast? "::" type).getD ([], type)

def qualify (i : Interface) (cls? : Option ClassDecl) (type : Text) : Text :=
  let (scope, name) := splitScope type
  if (i.classEnum? scope name).isSome then Text.concat [scope, "_", name]
  else
    match cls? with
    | some c => if c.hasEnum type then Text.concat [c.name.shown, "_", type.shown] else type
    | none => type

def enum? (i : Interface) (cls? : Option ClassDecl) (type : Text) : Option EnumDecl :=
  let (scope, name) := splitScope type
  match i.classEnum? scope name with
  | some e => some e
  | none =>
    match cls?.bind fun c => i.classEnum? c.name type with
    | some e => some e
    | none => i.enums.find? (·.name = type)

def enumPlan? (i : Interface) (cls? : Option ClassDecl) (type : Text) : Option EnumPlan :=
  (i.enum? cls? type).map (·.plan)

def hint (i : Interface) (cls? : Option ClassDecl) (type : Text) : Hint :=
  match Builtin.encoding? type with
  | some encoding => .ofEncoding encoding
  | none =>
    if i.usedEnums.contains type then .integer
    else if !type.isSymbol then .any
    else .ofSymbol (i.qualify cls? type).dotted

def checkType (i : Interface) (cls? : Option ClassDecl) (type : Text) : Text :=
  let hint := i.hint cls? type
  if Builtin.isBuiltin type || hint = .any then hint.checkWord else hint.spelling

/-- The types that need registration, each once and in the order of first mention: the records, then
what the classes mention, under the names that `rename` gives. -/
def metatypes (i : Interface) (rename : ClassDecl → Text → Text) : List Text :=
  (i.records.map (·.name) ++
    i.classes.flatMap fun c => (c.mentions.filter (!Builtin.isBuiltin ·)).map (rename c)).eraseDups

/-- The enums of the unit under the names they are emitted with: the global ones, then those of the
classes. -/
def emittedEnums (i : Interface) : List (Text × EnumPlan) :=
  i.enums.map (fun e => (e.name, e.plan)) ++
    i.classes.flatMap fun c => c.enums.map fun e => (i.qualify (some c) e.name, e.plan)

/-- The registrations of the unit, one for each name: the enums, the mentioned types that are symbols,
and the enums declared elsewhere. -/
def registrations (i : Interface) : List Registration :=
  let enums := Keyed.ofList (i.emittedEnums.map fun (name, _) => (name, Registration.mk name name none))
  let types := (i.metatypes fun c t => i.qualify (some c) t).foldl (fun regs name =>
    if (Keyed.get? name regs).isNone && name.isSymbol then
      Keyed.set name (Registration.mk name name.dotted none) regs
    else regs) enums
  let all := i.usedEnums.foldl (fun regs name =>
    Keyed.set name (Registration.mk name "int" (some name.identifier)) regs) types
  all.map (·.2)

/-- The argument types of a signal as it is declared: a change signal carries the new value. -/
def signalTypes (i : Interface) (c : ClassDecl) (s : NumberedSignal) : List Text :=
  let types : List Text := match s.property? with
    | some ordinal => (c.properties[ordinal]?.map (·.type)).toList
    | none => s.paramTypes
  types.map (i.qualify (some c))

end Interface
end Counterpart
