import Counterpart.Draft.Basic
import Counterpart.Fault

/-!
What keeps a draft from being made into something. A draft that obeys the rules may still leave fields
absent; some of them are only shown, others are needed by what is made from the draft. A gap is the first
absent field that is needed, named for what it is needed for, or a constant that cannot be evaluated.
-/
namespace Counterpart

/-- What an absent field is needed for, or what is wrong with a constant. -/
inductive Gap where
  /-- The sign of an enumerator. -/
  | sign
  | magnitude
  | items
  | scope
  | symbol
  | default
  /-- The type at a position of a signature, or the name at a position of several arguments. -/
  | signature (position : Nat)
  | capital
  | access
  /-- A value of that kind stands in a set or among keys, where it can change unnoticed. -/
  | unhashable (kind : Text)
  /-- An integer is added to an imaginary number and too large for that. -/
  | tooLarge
  | tooDeep
  | unreadable
  | endless
  deriving DecidableEq, Repr

namespace Gap

def message : Gap → Text
  | .sign => "'<' not supported between instances of 'NoneType' and 'int'"
  | .magnitude => "bad operand type for abs(): 'NoneType'"
  | .items => "'NoneType' object is not iterable"
  | .scope => "'NoneType' object has no attribute 'rpartition'"
  | .symbol => "'NoneType' object has no attribute 'replace'"
  | .default => "'NoneType' object has no attribute 'strip'"
  | .signature position =>
    Text.concat ["sequence item ", Text.ofNat position, ": expected str instance, NoneType found"]
  | .capital => "'NoneType' object is not subscriptable"
  | .access => "'NoneType' object has no attribute 'value'"
  | .unhashable kind => Text.concat ["unhashable type: '", kind, "'"]
  | .tooLarge => "int too large to convert to float"
  | .tooDeep => "maximum recursion depth exceeded during ast construction"
  | .unreadable => []
  | .endless => "maximum recursion depth exceeded"

def kind : Gap → FaultKind
  | .scope | .symbol | .default | .access => .attribute
  | .sign | .magnitude | .items | .signature _ | .capital | .unhashable _ => .type
  | .tooLarge => .overflow
  | .tooDeep | .endless => .recursion
  | .unreadable => .memory

end Gap

namespace Draft

def absent? {α : Type} (gap : Gap) : Option α → Option Gap
  | none => some gap
  | some _ => none

/-! ## Enums -/

/-- The first enumerator that decides whether there is a negative one has no value. -/
def signOpen : List Enumerator → Bool
  | [] => false
  | e :: rest =>
    match e.value with
    | none => true
    | some value => if value.toInt < 0 then false else signOpen rest

def EnumDecl.gap? (e : EnumDecl) : Option Gap :=
  let enumerators := e.enumerators.present
  if e.signed?.isNone && signOpen enumerators then some .sign
  else if e.max?.isNone && enumerators.any (·.value.isNone) then some .magnitude
  else none

def enumGap? (d : Draft) : Option Gap :=
  (d.enums.present ++ d.classes.present.flatMap (·.enums.present)).findSome? EnumDecl.gap?

/-! ## Signatures -/

def Operation.gap? (op : Operation) : Option Gap :=
  (op.params.present.findIdx? (·.type.isNone)).map .signature

/-- What an operation lacks to hand on its arguments by name; a single one needs no name. -/
def Operation.argumentGap? (op : Operation) : Option Gap :=
  if op.params.present.length < 2 then none else (op.params.present.findIdx? (·.name.isNone)).map .signature

def operationsGap? (operations : Items Operation) : Option Gap := operations.present.findSome? Operation.gap?

def ClassDecl.ordinalGap? (c : ClassDecl) : Option Gap :=
  operationsGap? c.signals <|> operationsGap? c.slots

def ordinalGap? (d : Draft) : Option Gap := d.classes.present.findSome? ClassDecl.ordinalGap?

/-! ## Names -/

def ClassDecl.mentioned (c : ClassDecl) : List (Option Text) :=
  c.properties.present.map (·.type) ++
    (c.signals.present ++ c.slots.present).flatMap fun op => op.returnType :: op.params.present.map (·.type)

def ClassDecl.scoped (c : ClassDecl) : List (Option Text) := c.enums.present.map (·.name) ++ c.mentioned

def scopeGap? (d : Draft) : Option Gap :=
  d.enumGap? <|> absent? .items d.usedEnums

def registrationGap? (d : Draft) : Option Gap :=
  d.scopeGap? <|>
    (d.classes.present.flatMap (·.scoped)).findSome? (absent? .scope) <|>
    (d.records.present.map (·.name)).findSome? (absent? .symbol)

/-! ## Types and tables -/

def typeGap? (d : Draft) : Option Gap :=
  d.registrationGap? <|>
    (d.records.present.flatMap fun r => r.attributes.present.map (·.type)).findSome? (absent? .symbol)

def ClassDecl.tableGap? (c : ClassDecl) : Option Gap :=
  (c.properties.present.map (·.access)).findSome? (absent? .access) <|> c.ordinalGap?

end Draft
end Counterpart
