import Counterpart.Module.Plain
import Counterpart.Session.Step

/-!
Plain steps: those that ask of the classes of a plain module no more than its declarations say. They name classes
that are there, members by plain names, and ordinals by integers.
-/
namespace Counterpart.Session

namespace Datum

mutual
def isPlain (m : Module) : Datum → Bool
  | .plain (.foreign cls _) => outsideClasses.contains cls
  | .plain _ => true
  | .list items => arePlain m items
  | .enumerator cls name => (m.enumClass? cls).any fun plan => plan.hasMember name
  | .record cls fields => ((m.recordClass? cls).any fun r => fields.length ≤ r.attributes.length) && arePlain m fields

def arePlain (m : Module) : List Datum → Bool
  | [] => true
  | d :: rest => isPlain m d && arePlain m rest
end

end Datum

def isPlainMember (name : Text) : Bool := name.isPlainWord && !PythonModule.classNames.contains name

def arePlainSlots (m : Module) (slots : List (Text × Datum)) : Bool :=
  slots.all fun (name, d) => isPlainMember name && d.isPlain m

def isPlainImplementation (m : Module) (cls : Text) (slots? : Option (List (Text × Datum))) : Bool :=
  m.mode.hasSource && (m.interface.class? cls).isSome && slots?.all (arePlainSlots m)

def isSide (m : Module) (name : Text) : Bool :=
  match m.definition? name with
  | some (.replica _) | some (.source _) | some (.simpleSource _) => true
  | _ => false

/-- The classes written down have plain names and members, and derive from earlier ones, from sides of classes, or
from what every source has. -/
def areSketchesPlain (m : Module) (known : List Text) : List Sketch → Bool
  | [] => true
  | s :: rest =>
    s.name.isPlainTitle && s.bases.all (fun base => known.contains base || isSide m base) &&
      s.members.all (fun (name, _) => isPlainMember name) && areSketchesPlain m (s.name :: known) rest

def arePlainSketches (m : Module) (sketches : List Sketch) : Bool :=
  !sketches.isEmpty && areSketchesPlain m ["SourceBase"] sketches

def isOrdinal : Value → Bool
  | .integer _ => true
  | _ => false

def isPlainRaw : Value → Bool
  | .none | .truth _ | .integer _ | .real _ | .text _ | .list _ => true
  | _ => false

/-- The name stands for a member that can be told from the declarations, if for any. -/
def isPlainCall (m : Module) (name : Text) : Bool :=
  name.isPlainWord && name ≠ "node" && name ≠ "object_type" && !m.interface.classes.any (·.hasEnum name)

/-- The look-up has as many arguments as it needs, each an integer or the word for a kind of members. -/
def isPlainQuery (function : Text) (args : List Value) : Bool :=
  (Keyed.get? function Layer.lookUps).any fun params =>
    params.length = args.length && (params.zip args).all fun (param, arg) =>
      if param = "kind" then (Descriptor.kind? arg).isSome else isOrdinal arg

namespace Step

/-- The step calls no receivers, so that a receiver that takes it ends there. -/
def isQuiet : Step → Bool
  | .emit .. | .call .. | .setProperty .. => false
  | _ => true

mutual
def isPlain (m : Module) : Step → Bool
  | .register => !m.definitions.isEmpty
  | .types | .lookupType _ | .typeId _ | .isBuiltin _ | .baseCodec _ | .setNode .. | .getNode _ | .raise _
  | .descriptor _ => true
  | .typeName i | .unpack _ _ i | .unpackArguments _ _ i | .cancel i | .replyState i | .result i
  | .onDone i _ => isOrdinal i
  | .registerType _ type _ => outsideClasses.contains type
  | .pack _ d | .packArguments _ d | .value d | .bareReplica _ _ _ _ d => d.isPlain m
  | .deliver i d | .await i d => isOrdinal i && d.isPlain m
  | .equal a b => a.isPlain m && b.isPlain m
  | .members cls => (m.enumClass? cls).isSome
  | .convert cls raw | .fromWire cls raw => (m.enumClass? cls).isSome && isPlainRaw raw
  | .replica _ cls _ _ | .tables cls => m.mode.hasReplica && (m.interface.class? cls).isSome
  | .source _ cls slots? | .bind _ cls (.implemented slots?) => isPlainImplementation m cls slots?
  | .instantiate _ cls => isSide m cls
  | .undefined cls =>
    match m.definition? cls with
    | some (.source _) | some (.simpleSource _) => true
    | _ => false
  | .signalOf cls name | .has cls name => isSide m cls && isPlainMember name
  | .setProperty _ index d => isOrdinal index && d.isPlain m
  | .propertyValue _ index => isOrdinal index
  | .propertyAs _ index _ _ => isOrdinal index
  | .call _ name args => isPlainCall m name && Datum.arePlain m args
  | .send _ kind index args _ => (RequestKind.ofWord? kind).isSome && isOrdinal index && args.isPlain m
  | .connect _ signal _ reaction | .disconnect _ signal _ reaction =>
    isPlainMember signal && reaction.all isQuiet && arePlain m reaction
  | .emit _ signal args => isPlainMember signal && Datum.arePlain m args
  | .receivers _ signal => isPlainMember signal
  | .metaObject (.sketched sketches) _ => arePlainSketches m sketches
  | .metaObject (.compiled cls) _ => isSide m cls
  | .bind _ cls (.sketched sketches) => m.mode.hasSource && (m.interface.class? cls).isSome && arePlainSketches m sketches
  | .bindBare _ sketches _ _ => arePlainSketches m sketches
  | .query _ function args => isPlainQuery function args

def arePlain (m : Module) : List Step → Bool
  | [] => true
  | step :: rest => isPlain m step && arePlain m rest
end

end Step

def isPlain (m : Module) (steps : List Step) : Bool := m.isPlain && Step.arePlain m steps

end Counterpart.Session
