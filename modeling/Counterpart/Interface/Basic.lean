import Counterpart.Text.Upper

/-!
Interface definitions: what a unit declares. A class has properties, signals and slots that a replica
and a source share; records and enums are the values that travel between the two.
-/
namespace Counterpart

inductive Access where
  | constant
  | readonly
  | readwrite
  deriving DecidableEq, Repr

def Access.word : Access → Text
  | .constant => "constant"
  | .readonly => "readonly"
  | .readwrite => "readwrite"

/-- An integer as a definition gives it: a number, a truth value that counts as one or zero, or none. -/
inductive Whole where
  | number (i : Int)
  | truth (b : Bool)
  | absent
  deriving DecidableEq, Repr

namespace Whole

def toInt? : Whole → Option Int
  | .number i => some i
  | .truth b => some (if b then 1 else 0)
  | .absent => none

def toInt (w : Whole) : Int := w.toInt?.getD 0

def text : Whole → Text
  | .number i => Text.ofInt i
  | .truth b => if b then "True" else "False"
  | .absent => "None"

end Whole

structure Parameter where
  type : Text
  name : Text
  deriving DecidableEq, Repr

structure Operation where
  name : Text
  params : List Parameter := []
  returnType : Text := "void"
  deriving DecidableEq, Repr

namespace Operation

def paramTypes (op : Operation) : List Text := op.params.map (·.type)

def paramNames (op : Operation) : List Text := op.params.map (·.name)

def declaration (op : Operation) : Text :=
  Text.join ", " (op.params.map fun p => p.type ++ " " ++ p.name)

def signature (op : Operation) : Text :=
  op.name ++ "(" ++ Text.join "," op.paramTypes ++ ")"

def isVoid (op : Operation) : Bool := op.returnType = "void"

end Operation

structure Property where
  type : Text
  name : Text
  access : Access := .readwrite
  default : Text := []
  deriving DecidableEq, Repr

namespace Property

def notifies (p : Property) : Bool := p.access ≠ .constant

def writable (p : Property) : Bool := p.access = .readwrite

def setterName (p : Property) : Text := "set" ++ p.name.capitalized

def changeName (p : Property) : Text := p.name ++ "Changed"

end Property

structure Enumerator where
  name : Text
  value : Whole
  deriving DecidableEq, Repr

/-- An enum; its signedness and its largest magnitude may be left to its values. -/
structure EnumDecl where
  name : Text
  enumerators : List Enumerator
  signed? : Option Bool := none
  max? : Option Whole := none
  deriving DecidableEq, Repr

structure RecordDecl where
  name : Text
  attributes : List Parameter := []
  deriving DecidableEq, Repr

structure ClassDecl where
  name : Text
  properties : List Property := []
  signals : List Operation := []
  slots : List Operation := []
  enums : List EnumDecl := []
  deriving DecidableEq, Repr

def ClassDecl.hasEnum (c : ClassDecl) (name : Text) : Bool := c.enums.any (·.name = name)

structure Interface where
  classes : List ClassDecl := []
  records : List RecordDecl := []
  enums : List EnumDecl := []
  usedEnums : List Text := []
  /-- Lines for the head of a header. -/
  directives : List Text := []
  deriving DecidableEq, Repr

end Counterpart
