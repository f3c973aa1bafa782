import Counterpart.Module.Definitions
import Counterpart.Object.Lineage

/-!
The sides of the classes of a compiled unit as layers of members. A name that is bound twice keeps its place
and has what was bound last.
-/
namespace Counterpart

namespace Interface

/-- What a class binds for its enums: their short names stand for the names they are emitted with. -/
def aliasBindings (i : Interface) (c : ClassDecl) : List (Text × Member) :=
  c.enums.map fun e => (e.name, .alias (i.qualify (some c) e.name))

def signalBindings (i : Interface) (c : ClassDecl) : List (Text × Member) :=
  c.ordinals.signals.map fun s => (s.name, .signal (i.signalTypes c s))

def replicaPropertyBindings (i : Interface) (c : ClassDecl) (n : NumberedProperty) : List (Text × Member) :=
  let p := n.property
  let name := p.name.unreserved
  (name, .method (.cached n.ordinal (i.hint (some c) p.type) p.name)) ::
    (if p.writable then [(p.setterName, .method (.write n.ordinal name))] else [])

def replicaSlotBinding (n : NumberedMethod) : Text × Member :=
  (n.slot.name.unreserved,
    .method (.invoke n.ordinal (n.slot.paramNames.map Text.unreserved)
      (if n.slot.isVoid then none else some n.slot.returnType)))

def replicaBindings (i : Interface) (c : ClassDecl) : List (Text × Member) :=
  i.aliasBindings c ++ i.signalBindings c ++
    c.ordinals.properties.flatMap (i.replicaPropertyBindings c) ++ c.ordinals.methods.map replicaSlotBinding

def sourceBindings (i : Interface) (c : ClassDecl) : List (Text × Member) :=
  i.aliasBindings c ++ i.signalBindings c ++
    c.properties.map (fun p => (p.name.unreserved, .method .declared)) ++
    (c.properties.filter (·.writable)).map (fun p => (p.setterName, .method .declared)) ++
    c.slots.map (fun s => (s.name.unreserved, .method .declared))

def simpleSourceBindings (c : ClassDecl) : List (Text × Member) :=
  c.properties.map (fun p => (p.name.unreserved, .method (.stored p.name))) ++
    (c.properties.filter (·.writable)).map fun p =>
      (p.setterName, .method (.assign p.name.unreserved p.name p.changeName))

def replicaLayer (i : Interface) (c : ClassDecl) : Layer where
  name := c.replicaName
  remoteType? := some c.name
  members := Keyed.ofList (i.replicaBindings c)

def sourceLayer (i : Interface) (c : ClassDecl) : Layer where
  name := c.sourceName
  remoteType? := some c.name
  properties? := some (c.properties.map (·.name))
  members := Keyed.ofList (i.sourceBindings c)

def simpleSourceLayer (c : ClassDecl) : Layer where
  name := c.simpleSourceName
  members := Keyed.ofList (simpleSourceBindings c)

def descriptorLayer (i : Interface) (c : ClassDecl) : Layer where
  name := c.descriptorName
  members := Keyed.ofList (i.aliasBindings c)

def replicaLineage (i : Interface) (c : ClassDecl) : Lineage := i.replicaLayer c :: Lineage.replicaBase

def sourceLineage (i : Interface) (c : ClassDecl) : Lineage := i.sourceLayer c :: Lineage.sourceBase

def simpleSourceLineage (i : Interface) (c : ClassDecl) : Lineage := simpleSourceLayer c :: i.sourceLineage c

def descriptorLineage (i : Interface) (c : ClassDecl) : Lineage := i.descriptorLayer c :: Lineage.descriptorBase

end Interface

namespace Module

def lineageOf? (m : Module) : Definition → Option Lineage
  | .replica c => some (m.interface.replicaLineage c)
  | .source c => some (m.interface.sourceLineage c)
  | .simpleSource c => some (m.interface.simpleSourceLineage c)
  | .descriptor c => some (m.interface.descriptorLineage c)
  | .enum _ | .record _ => none

def lineage (m : Module) (name : Text) : Except Fault (Definition × Lineage) :=
  match (m.definition? name).bind fun d => (m.lineageOf? d).map fun l => (d, l) with
  | some found => .ok found
  | none => .error (.unknownKey name)

end Module

def Lineage.implement (base : Lineage) (slots : List (Text × Value)) : Lineage :=
  { name := "Impl"
    members := Keyed.ofList (slots.map fun (name, v) => (name.unreserved, .method (.answer name v))) } :: base

end Counterpart
