import Counterpart.Object.Lineage

/-!
The members of a class that can be addressed from the other side. They are listed from the oldest
layer on, in the order of binding; a name stays where it first came.
-/
namespace Counterpart

def addName (names : List Text) (name : Text) : List Text :=
  if names.contains name then names else names ++ [name]

structure MetaObject where
  typeName : Text
  properties : List Text := []
  signals : List Text := []
  methods : List Text := []
  deriving DecidableEq, Repr

namespace Layer

def isPublic (name : Text) : Bool := !Text.startsWith "_" name

def properties (l : Layer) : List Text := l.properties?.getD []

def signals (l : Layer) : List Text :=
  (l.members.filter fun (_, member) => member.isSignal).map (·.1)

def methods (l : Layer) : List Text :=
  (l.members.filter fun (name, member) => member.isMethod && isPublic name).map (·.1)

end Layer

def Lineage.gather (l : Lineage) (names : Layer → List Text) : List Text :=
  (l.reverse.flatMap names).foldl addName []

def Lineage.metaObject (l : Lineage) : MetaObject where
  typeName := l.typeName
  properties := l.gather Layer.properties
  signals := l.gather Layer.signals
  methods := l.gather Layer.methods

namespace MetaObject

def placeIn (names : List Text) (name : Text) : Int :=
  match names.findIdx? (· = name) with
  | some place => place
  | none => -1

def propertyIndex (m : MetaObject) (name : Text) : Int := placeIn m.properties name

def signalIndex (m : MetaObject) (name : Text) : Int := placeIn m.signals name

def methodIndex (m : MetaObject) (name : Text) : Int := placeIn m.methods name

end MetaObject
end Counterpart
