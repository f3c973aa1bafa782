import Counterpart.Session.Classes

/-!
Making objects of the classes of a unit, and calling what they have under a name. A method that emits a signal
calls receivers; `react` stands for what a receiver does with the arguments.
-/
namespace Counterpart.Session

/-! ## Making objects -/

def makeReplica (id : Text) (c : ClassDecl) (l : Lineage) (node? : Option Text) (name : Text) : Act Unit := do
  Act.registerTypes
  let values ← Act.of ((← Act.module).startValues c)
  Act.keep id { lineage := l, state := .replica { Replica.create c.name name node? with values } }

def makeSource (id : Text) (l : Lineage) (start : Module → Except Fault (List (Text × Value))) : Act Unit := do
  let undefined := l.undefined
  if !undefined.isEmpty then throw (.abstractClass l.className undefined)
  Act.registerTypes
  let values ← Act.of (start (← Act.module))
  Act.keep id { lineage := l, state := .source { values } }

/-- Makes an object of a class that derives from a side of a class of the unit or is that one. -/
def makeObject (id : Text) (l : Lineage) : Definition → Act Unit
  | .replica c => makeReplica id c l none []
  | .source _ => makeSource id l fun _ => .ok []
  | .simpleSource c => makeSource id l fun m => m.startProperties c
  | .descriptor _ => throw (.missingArguments (l.className ++ ".__init__") ["object_type"])
  | .enum _ | .record _ => throw (.unknownKey l.className)

/-! ## Signals -/

def notify (inner : Step → Act Answer) (args : List Value) (tag : Text) : Act Unit := do
  Act.note (.received tag args)
  let reaction := (Keyed.get? tag (← get).receivers).getD []
  reaction.forM fun step => discard (inner step)

def connect (id name tag : Text) (reaction : List Step) : Act Unit := do
  let (o, _) ← Act.signal id name "connect"
  Act.mention tag reaction
  Act.keep id { o with connections := o.connections.connect name tag }

def emit (react : List Value → Text → Act Unit) (id name : Text) (args : List Value) : Act Unit := do
  let (o, _) ← Act.signal id name "emit"
  (o.connections.receivers name).forM (react args)

/-! ## Functions of replicas -/

def request (id : Text) (o : Instance) (r : Replica) (kind : RequestKind) (index : Int) (args : Value)
    (returnType? : Option Text) : Act Answer := do
  if r.node?.isNone then throw (.detached r.name)
  Act.issue id o r kind index (← Act.of args.toItems)
  match returnType? with
  | some returnType => Act.openReply returnType
  | none => return .nothing

def update (id : Text) (o : Instance) (r : Replica) (index v : Value) : Act Answer := do
  let position ← Act.of (index.toPosition "list" r.values.length)
  let shown := match index with
    | .real d => (d.truncate?).getD position
    | _ => position
  let (changed, after, warnings) := r.update position v
  Act.warn (if warnings.isEmpty then [] else [.strangeProperty r.name shown])
  Act.keepReplica id o after
  return .truth changed

def valueAt (r : Replica) (index : Value) : Except Fault Value :=
  match index.integer? with
  | some i => r.valueAt i
  | none => .error (.notPosition "list" index.kind)

def valueAs (r : Replica) (index : Value) (expected? : Option ValueClass) (name : Text) : Act Value := do
  match index.integer? with
  | some i => Act.ofLogged (r.valueAs (← Act.module) (← get).room i expected? name)
  | none => throw (.notPosition "list" index.kind)

/-! ## Methods -/

def argument (args : List Value) (place : Nat) : Value := (args[place]?).getD .none

def runReplicaMethod (id : Text) (o : Instance) (r : Replica) (function : Text) (args : List Value) :
    Method → Act Answer
  | .cached ordinal expected property => do
    Act.of (checkArguments function [] args)
    let expected? ← Act.of ((← Act.module).expected expected)
    return .value (← valueAs r (.integer ordinal) expected? property)
  | .write ordinal param => do
    Act.of (checkArguments function [param] args)
    request id o r .writeProperty ordinal (.tuple args) none
  | .invoke ordinal params returnType? => do
    Act.of (checkArguments function params args)
    request id o r .invokeMethod ordinal (.tuple args) returnType?
  | .update => do
    Act.of (checkArguments function ["index", "value"] args)
    update id o r (argument args 0) (argument args 1)
  | _ => return .nothing

def runSourceMethod (react : List Value → Text → Act Unit) (id : Text) (o : Instance) (s : Source) (function : Text)
    (args : List Value) : Method → Act Answer
  | .stored property => do
    Act.of (checkArguments function [] args)
    match s.value? property with
    | some v => return .value v
    | none => throw (.noAttribute o.lineage.className ("_" ++ property))
  | .assign param property change => do
    Act.of (checkArguments function [param] args)
    let v := argument args 0
    match s.assign? property v with
    | none => return .nothing
    | some after =>
      Act.keep id { o with state := .source after }
      emit react id change [v]
      return .nothing
  | .answer slot result => do
    Act.note (.ran slot args)
    return .value result
  | _ => return .nothing

def runMethod (react : List Value → Text → Act Unit) (id : Text) (o : Instance) (owner name : Text)
    (args : List Value) (method : Method) : Act Answer := do
  let function := Text.concat [owner, ".", name]
  match o.state, method with
  | .replica r, method => runReplicaMethod id o r function args method
  | .source s, method => runSourceMethod react id o s function args method
  | .descriptor d, .lookUp => return .value (← Act.of (d.lookUp name args))
  | .descriptor _, _ => return .nothing

def callMember (react : List Value → Text → Act Unit) (id name : Text) (evaluate : Act (List Value)) :
    Act Answer := do
  let o ← Act.object id
  let (owner, member) ← Act.found o name
  let args ← evaluate
  match member with
  | .method m => runMethod react id o owner name args m
  | .signal _ => throw (.notCallable "BoundSignal")
  | .value v => throw (.notCallable v.kind)
  | .alias _ | .shared | .builtin => return .nothing

end Counterpart.Session
