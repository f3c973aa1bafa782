import Counterpart.Literal.Quotation
import Counterpart.Object.MetaObject
import Counterpart.Registry

/-!
Descriptors: a class of a unit bound to a type that stands for it. Each ordinal is resolved once to
the index of the member in the type; the look-ups that the other side drives never fail.
-/
namespace Counterpart

structure Descriptor where
  objectType : Text
  name : Text
  typeName : Text
  properties : List Int := []
  signals : List Int := []
  methods : List Int := []
  signalTypes : List (List Int) := []
  methodTypes : List (List Int) := []
  signalSignatures : List Text := []
  methodSignatures : List Text := []
  returnTypes : List Text := []
  changed : List Nat := []
  deriving DecidableEq, Repr

namespace Descriptor

/-! ## Binding -/

def require (l : Lineage) (cls : Text) (what : Requirement) (names : List Text) (name : Text) :
    Except Fault Int :=
  match names.findIdx? (· = name) with
  | some place => .ok place
  | none => .error (.nonconforming l.className what name cls)

def requireCallable (l : Lineage) (cls name : Text) : Except Fault Unit :=
  if (l.member? name).any Member.isCallable then .ok ()
  else .error (.nonconforming l.className .setter name cls)

def typeIds (i : Interface) (registry : Registry) (c : ClassDecl) (types : List Text) : Except Fault (List Int) :=
  types.mapM fun t => (i.qualify (some c) t).reread.map registry.typeId

/-- Binds a class to a type. What the type lacks is found in the order properties, setters, signals,
slots. Signatures and types are what a module says of them. -/
def bind (i : Interface) (registry : Registry) (c : ClassDecl) (l : Lineage) : Except Fault Descriptor := do
  let members := l.metaObject
  let ordinals := c.ordinals
  let properties ← ordinals.properties.mapM fun p => require l c.name .property members.properties p.property.name
  (c.properties.filter (·.writable)).forM fun p => requireCallable l c.name p.setterName
  let signals ← ordinals.signals.mapM fun s => require l c.name .signal members.signals s.name
  let methods ← ordinals.methods.mapM fun n => require l c.name .slot members.methods n.slot.name
  let signalSignatures ← ordinals.signals.mapM fun s => s.signature.reread
  let methodSignatures ← ordinals.methods.mapM fun n => n.slot.signature.reread
  let returnTypes ← ordinals.methods.mapM fun n => n.slot.returnType.reread
  let signalTypes ← ordinals.signals.mapM fun s => typeIds i registry c s.paramTypes
  let methodTypes ← ordinals.methods.mapM fun n => typeIds i registry c n.slot.paramTypes
  return {
    objectType := l.className
    name := c.name
    typeName := c.name
    properties, signals, methods, signalTypes, methodTypes, signalSignatures, methodSignatures, returnTypes
    changed := ordinals.changes.filterMap (·.property?) }

def bare (l : Lineage) (name : Text) (typeName? : Option Text) : Descriptor where
  objectType := l.className
  name
  typeName := match typeName? with
    | some (c :: rest) => c :: rest
    | _ => name

/-! ## Look-ups -/

def atIndex? {α : Type} (table : List α) (index : Int) : Option α :=
  if index < 0 then none else table[index.toNat]?

def numberAt (table : List Int) (index : Int) : Int := (atIndex? table index).getD (-1)

def textAt (table : List Text) (index : Int) : Text := (atIndex? table index).getD []

def paramCountAt (table : List (List Int)) (index : Int) : Int :=
  match atIndex? table index with
  | some types => types.length
  | none => -1

def paramTypeAt (table : List (List Int)) (index param : Int) : Int :=
  match atIndex? table index with
  | some types => numberAt types param
  | none => -1

def table (d : Descriptor) : MemberKind → List Int
  | .property => d.properties
  | .signal => d.signals
  | .method => d.methods

def count (d : Descriptor) (kind : MemberKind) : Nat := (d.table kind).length

def sourceIndex (d : Descriptor) (kind : MemberKind) (index : Int) : Int := numberAt (d.table kind) index

def signalParamCount (d : Descriptor) (index : Int) : Int := paramCountAt d.signalTypes index

def signalParamType (d : Descriptor) (index param : Int) : Int := paramTypeAt d.signalTypes index param

def methodParamCount (d : Descriptor) (index : Int) : Int := paramCountAt d.methodTypes index

def methodParamType (d : Descriptor) (index param : Int) : Int := paramTypeAt d.methodTypes index param

def propertyPosition (d : Descriptor) (signal : Int) : Int :=
  match atIndex? d.changed signal with
  | some ordinal => ordinal + 1
  | none => -1

def propertyIndex (d : Descriptor) (signal : Int) : Int :=
  match atIndex? d.changed signal with
  | some ordinal => numberAt d.properties ordinal
  | none => -1

def signalSignature (d : Descriptor) (index : Int) : Text := textAt d.signalSignatures index

def methodSignature (d : Descriptor) (index : Int) : Text := textAt d.methodSignatures index

def slotMark : Int := 2

def methodType (d : Descriptor) (index : Int) : Int :=
  if (atIndex? d.methods index).isSome then slotMark else -1

def returnType (d : Descriptor) (index : Int) : Text := textAt d.returnTypes index

def paramTable? (d : Descriptor) : Option MemberKind → Option (List (List Int))
  | some .signal => some d.signalTypes
  | some .method => some d.methodTypes
  | _ => none

def signatureTable? (d : Descriptor) : Option MemberKind → Option (List Text)
  | some .signal => some d.signalSignatures
  | some .method => some d.methodSignatures
  | _ => none

def paramCount (d : Descriptor) (kind? : Option MemberKind) (index : Int) : Int :=
  match d.paramTable? kind? with
  | some table => paramCountAt table index
  | none => -1

def paramType (d : Descriptor) (kind? : Option MemberKind) (index param : Int) : Int :=
  match d.paramTable? kind? with
  | some table => paramTypeAt table index param
  | none => -1

def signature (d : Descriptor) (kind? : Option MemberKind) (index : Int) : Text :=
  match d.signatureTable? kind? with
  | some table => textAt table index
  | none => []

end Descriptor
end Counterpart
