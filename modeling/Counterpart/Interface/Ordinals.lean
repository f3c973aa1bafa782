import Counterpart.Interface.Basic

/-!
Ordinals: the numbers by which the two sides of a class address its members. They follow from the
class alone, so sides that are made apart agree. The signals are one change signal for each property
that notifies, then the declared signals.
-/
namespace Counterpart

inductive MemberKind where
  | property
  | signal
  | method
  deriving DecidableEq, Repr

structure NumberedProperty where
  ordinal : Nat
  property : Property
  deriving DecidableEq, Repr

/-- A signal with its number; a change signal knows the ordinal of its property. -/
structure NumberedSignal where
  ordinal : Nat
  name : Text
  params : List Parameter
  property? : Option Nat
  deriving DecidableEq, Repr

structure NumberedMethod where
  ordinal : Nat
  slot : Operation
  deriving DecidableEq, Repr

namespace NumberedSignal

def isChange (s : NumberedSignal) : Bool := s.property?.isSome

def paramTypes (s : NumberedSignal) : List Text := s.params.map (·.type)

def signature (s : NumberedSignal) : Text := s.name ++ "(" ++ Text.join "," s.paramTypes ++ ")"

end NumberedSignal

structure Ordinals where
  properties : List NumberedProperty
  signals : List NumberedSignal
  methods : List NumberedMethod
  deriving DecidableEq, Repr

def ClassDecl.notifying (c : ClassDecl) : List (Nat × Property) :=
  (c.properties.zipIdx.map fun (p, i) => (i, p)).filter fun (_, p) => p.notifies

/-- The change signals of a class, not yet numbered: names and property ordinals. -/
def ClassDecl.signalHeads (c : ClassDecl) : List (Text × List Parameter × Option Nat) :=
  (c.notifying.map fun (i, p) => (p.changeName, [], some i)) ++
    c.signals.map fun s => (s.name, s.params, none)

def ClassDecl.ordinals (c : ClassDecl) : Ordinals where
  properties := c.properties.zipIdx.map fun (p, i) => ⟨i, p⟩
  signals := c.signalHeads.zipIdx.map fun ((name, params, property?), i) => ⟨i, name, params, property?⟩
  methods := c.slots.zipIdx.map fun (s, i) => ⟨i, s⟩

namespace Ordinals

def changes (o : Ordinals) : List NumberedSignal := o.signals.filter (·.isChange)

def declared (o : Ordinals) : List NumberedSignal := o.signals.filter (!·.isChange)

def members (o : Ordinals) : MemberKind → List (Text × Nat)
  | .property => o.properties.map fun p => (p.property.name, p.ordinal)
  | .signal => o.signals.map fun s => (s.name, s.ordinal)
  | .method => o.methods.map fun m => (m.slot.name, m.ordinal)

/-- The table of a kind: the number of members, then a position for each. -/
def table (o : Ordinals) (kind : MemberKind) : List Nat :=
  let count := (o.members kind).length
  count :: (List.range count).map (· + 1)

def propertyForSignal (o : Ordinals) (ordinal : Int) : Int :=
  if ordinal < 0 then -1
  else
    match o.signals[ordinal.toNat]? with
    | some signal =>
      match signal.property? with
      | some property => property
      | none => -1
    | none => -1

def ordinalOf (o : Ordinals) (kind : MemberKind) (name : Text) : Int :=
  match (o.members kind).find? fun (member, _) => member = name with
  | some (_, ordinal) => ordinal
  | none => -1

end Ordinals
end Counterpart
