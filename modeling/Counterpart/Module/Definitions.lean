import Counterpart.Emit.Mode
import Counterpart.Interface.RecordPlan
import Counterpart.Value.Convert

/-!
The classes that a unit is compiled to, under their names. Where two of them have one name, the later one
has it.
-/
namespace Counterpart

inductive Definition where
  | enum (plan : EnumPlan)
  | record (decl : RecordDecl)
  | replica (c : ClassDecl)
  | source (c : ClassDecl)
  | simpleSource (c : ClassDecl)
  | descriptor (c : ClassDecl)
  deriving DecidableEq, Repr

structure Module where
  interface : Interface := {}
  mode : Mode := .merged
  deriving DecidableEq, Repr

abbrev Scope := List (Text × Definition)

def Scope.find? (scope : Scope) (name : Text) : Option Definition :=
  ((scope.filter fun (n, _) => n = name).getLast?).map (·.2)

namespace ClassDecl

def replicaName (c : ClassDecl) : Text := c.name ++ "Replica"

def sourceName (c : ClassDecl) : Text := c.name ++ "Source"

def simpleSourceName (c : ClassDecl) : Text := c.name ++ "SimpleSource"

def descriptorName (c : ClassDecl) : Text := c.name ++ "SourceAPI"

end ClassDecl

def Mode.definitions (mode : Mode) (c : ClassDecl) : Scope :=
  (if mode.hasReplica then [(c.replicaName, .replica c)] else []) ++
  (if mode.hasSource then
    [(c.sourceName, .source c), (c.simpleSourceName, .simpleSource c), (c.descriptorName, .descriptor c)]
   else [])

namespace Module

def definitions (m : Module) : Scope :=
  m.interface.emittedEnums.map (fun (name, plan) => (name, .enum plan)) ++
  m.interface.records.map (fun r => (r.name, .record r)) ++
  m.interface.classes.flatMap m.mode.definitions

def definition? (m : Module) (name : Text) : Option Definition := m.definitions.find? name

def enumClass? (m : Module) (name : Text) : Option EnumPlan :=
  match m.definition? name with
  | some (.enum plan) => some plan
  | _ => none

def recordClass? (m : Module) (name : Text) : Option RecordDecl :=
  match m.definition? name with
  | some (.record r) => some r
  | _ => none

end Module

/-! ## Enumerators -/

namespace EnumPlan

def members (p : EnumPlan) : List (Text × Int) := p.values.map fun e => (e.name.unreserved, e.value.toInt)

def hasMember (p : EnumPlan) (name : Text) : Bool := p.members.any (·.1 = name)

/-- The enumerator of a number: the first that is declared with it. -/
def withNumber? (p : EnumPlan) (cls : Text) (number : Int) : Option Value :=
  (p.members.find? fun (_, n) => n = number).map fun (name, n) => .enumerator cls name n

/-- The enumerator that a name stands for; names of one number stand for one enumerator. -/
def named? (p : EnumPlan) (cls name : Text) : Option Value :=
  (p.members.find? fun (member, _) => member = name).bind fun (_, n) => p.withNumber? cls n

def matching? (p : EnumPlan) (cls : Text) (v : Value) : Option Value :=
  (p.members.find? fun (_, n) => v.equals (.integer n)).map fun (name, n) => .enumerator cls name n

def first? (p : EnumPlan) (cls : Text) : Option Value :=
  p.members.head?.map fun (name, n) => .enumerator cls name n

def convertValue (p : EnumPlan) (cls : Text) (raw : Value) : Except Fault (Value × Bool) :=
  match raw.unhashable? with
  | some kind => .error (.unhashable kind)
  | none =>
    match p.matching? cls raw, p.first? cls with
    | some v, _ => .ok (v, true)
    | none, some v => .ok (v, false)
    | none, none => .error .noEnumerators

/-- The enumerator whose number equals a value; a value that no enumerator has is refused. -/
def pick (p : EnumPlan) (cls : Text) (v : Value) : Except Fault Value :=
  match p.matching? cls v with
  | some member => .ok member
  | none => .error (.notEnumerator v.quoted cls)

end EnumPlan
end Counterpart
