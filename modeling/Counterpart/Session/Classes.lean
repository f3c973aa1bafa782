import Counterpart.Session.World

/-!
The classes that steps are about: those of the unit, those written down in a step, and simple sources with slots
that answer. Steps that only look at classes and descriptors are taken here.
-/
namespace Counterpart.Session

/-! ## Classes written down -/

def baseLineage (m : Module) (made : List (Text × Lineage)) (base : Text) : Except Fault Lineage :=
  match ((made.filter fun (name, _) => name = base).getLast?).map (·.2) with
  | some l => .ok l
  | none => if base = "SourceBase" then .ok Lineage.sourceBase else (m.lineage base).map (·.2)

def sketchLineages (m : Module) : List (Text × Lineage) → List Sketch → Except Fault (List (Text × Lineage))
  | made, [] => .ok made
  | made, s :: rest => do
    let bases ← s.bases.mapM (baseLineage m made)
    let l ← Lineage.derive {
      name := s.name, serial := made.length + 1, remoteType? := s.remoteType?,
      properties? := s.properties?, members := Keyed.ofList s.members } bases
    sketchLineages m (made ++ [(s.name, l)]) rest

def sketchLineage (m : Module) (sketches : List Sketch) : Except Fault Lineage := do
  match (← sketchLineages m [] sketches).getLast? with
  | some (_, l) => return l
  | none => throw .noItem

/-! ## Simple sources with slots -/

def defaultSlots (m : Module) (cls : Text) : List (Text × Value) :=
  ((m.interface.class? cls).map fun c => c.slots.map fun s => (s.name, Value.none)).getD []

def implementation (cls : Text) (slots? : Option (List (Text × Datum))) : Act (Definition × Lineage) := do
  let slots ← match slots? with
    | some given => given.mapM fun (name, d) => return (name, ← Act.eval d)
    | none => pure (defaultSlots (← Act.module) cls)
  let (d, base) ← Act.lineage (cls ++ "SimpleSource")
  return (d, base.implement slots)

def subjectLineage : Subject → Act Lineage
  | .sketched sketches => do Act.of (sketchLineage (← Act.module) sketches)
  | .compiled name => do return (← Act.lineage name).2

def boundLineage (cls : Text) : BoundType → Act Lineage
  | .sketched sketches => do Act.of (sketchLineage (← Act.module) sketches)
  | .implemented slots? => do return (← implementation cls slots?).2

/-! ## Classes of the unit -/

def enumOf (cls : Text) : Act EnumPlan := do
  match (← Act.module).enumClass? cls with
  | some plan => return plan
  | none => throw (.unknownKey cls)

def tableAnswer (table : List Nat) : Answer := .list (table.map fun (n : Nat) => .number n)

def tablesOf (cls : Text) : Act Answer := do
  match ← Act.lineage (cls ++ "Replica") with
  | (.replica c, _) =>
    return .list [.text c.name, tableAnswer (c.ordinals.table .property),
      tableAnswer (c.ordinals.table .signal), tableAnswer (c.ordinals.table .method)]
  | (_, l) => throw (.noClassAttribute l.className "_remote_type_")

def signalOf (cls name : Text) : Act Answer := do
  let (_, l) ← Act.lineage cls
  match l.member? name with
  | some (.signal types) => return .list [.text name, .list (types.map .text)]
  | some member => throw (member.lacks "name")
  | none => throw (.noClassAttribute cls name)

def bind (id cls : Text) (type : BoundType) : Act Unit := do
  let l ← boundLineage cls type
  match ← Act.lineage (cls ++ "SourceAPI") with
  | (.descriptor c, own) =>
    Act.registerTypes
    let d ← Act.of (Descriptor.bind (← Act.module).interface (← get).registry c l)
    Act.keep id { lineage := own, state := .descriptor d }
  | _ => throw (.unknownKey (cls ++ "SourceAPI"))

def takeClassStep : Step → Act Answer
  | .undefined cls => do
    match ← Act.lineage cls with
    | (.source _, l) | (.simpleSource _, l) => return .list (l.undefined.map .text)
    | _ => throw (.bareAttribute "__abstractmethods__")
  | .tables cls => tablesOf cls
  | .signalOf cls name => signalOf cls name
  | .has cls name => do return .truth ((← Act.lineage cls).2.knows name)
  | .metaObject subject find => do
    let l ← subjectLineage subject
    return .metaObject l.metaObject find
  | .bind id cls type => do
    bind id cls type
    return .nothing
  | .bindBare id sketches name typeName? => do
    let l ← Act.of (sketchLineage (← Act.module) sketches)
    Act.keep id { lineage := Lineage.descriptorBase, state := .descriptor (Descriptor.bare l name typeName?) }
    return .nothing
  | .descriptor id => do
    let o ← Act.object id
    match o.state with
    | .descriptor d => return .descriptor d
    | _ => throw (.noAttribute o.lineage.className "object_type")
  | .members cls => do
    let plan ← enumOf cls
    return .list (plan.members.map fun (name, number) => .list [.text name, .number number])
  | .convert cls raw => do
    let plan ← enumOf cls
    let (v, known) ← Act.of (plan.convertValue cls raw)
    return .list [.value v, .truth known]
  | .fromWire cls raw => do
    let plan ← enumOf cls
    return .value (← Act.ofLogged (plan.fromWire cls raw))
  | _ => return .nothing

end Counterpart.Session
