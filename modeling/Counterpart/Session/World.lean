import Counterpart.Module.Register
import Counterpart.Object.Connections
import Counterpart.Object.Reply
import Counterpart.Object.Role
import Counterpart.Object.Source
import Counterpart.Session.Step
import Counterpart.Wire.Codec

/-!
The state of a session, and actions on it. An action that fails keeps what it changed before.
-/
namespace Counterpart.Session

inductive State where
  | replica (r : Replica)
  | source (s : Source)
  | descriptor (d : Descriptor)

structure Instance where
  lineage : Lineage
  state : State
  connections : Connections Text := {}
  /-- The node that was given to an object without a place for it. -/
  attached? : Option (Option Text) := none

structure World where
  module : Module := {}
  registry : Registry := {}
  objects : List (Text × Instance) := []
  /-- The receivers by tag, each with the steps that it takes when it is called. -/
  receivers : List (Text × List Step) := []
  replies : List (Reply Text) := []
  sent : List (Text × Invocation) := []
  events : List Event := []
  log : List Warning := []
  /-- How many bytes there is room for. -/
  room : Nat := Value.usualRoom
  /-- How deep receivers can call one another, beyond those that a step calls. -/
  depth : Nat := 198

/-! ## Actions -/

abbrev Act := ExceptT Fault (StateM World)

namespace Act

def of {α : Type} : Except Fault α → Act α
  | .ok a => pure a
  | .error e => throw e

def warn (warnings : List Warning) : Act Unit := modify fun w => { w with log := w.log ++ warnings }

def ofLogged {α : Type} (x : Logged α) : Act α := do
  warn x.log
  of x.result

def note (e : Event) : Act Unit := modify fun w => { w with events := w.events ++ [e] }

def module : Act Module := return (← get).module

def eval (d : Datum) : Act Value := do of (d.eval (← module))

def evalAll (ds : List Datum) : Act (List Value) := do of (Datum.evalAll (← module) ds)

def object (id : Text) : Act Instance := do
  match Keyed.get? id (← get).objects with
  | some o => return o
  | none => throw (.unknownKey id)

def keep (id : Text) (o : Instance) : Act Unit :=
  modify fun w => { w with objects := Keyed.set id o w.objects }

def keepReplica (id : Text) (o : Instance) (r : Replica) : Act Unit := keep id { o with state := .replica r }

def registerTypes : Act Unit := do
  let w ← get
  let (result, registry) := w.module.register w.registry
  set { w with registry }
  of result

def lineage (cls : Text) : Act (Definition × Lineage) := do of ((← module).lineage cls)

def issue (id : Text) (o : Instance) (r : Replica) (kind : RequestKind) (index : Int) (args : List Value) :
    Act Unit := do
  let (node, invocation, after) ← of (r.issue kind index args)
  keepReplica id o after
  modify fun w => { w with sent := w.sent ++ [(node, invocation)] }

def openReply (returnType : Text) : Act Answer := do
  let w ← get
  let opened : Reply Text := { returnType }
  set { w with replies := w.replies ++ [opened] }
  return .reply w.replies.length returnType

def ordinal (v : Value) : Act Int :=
  match v.integer? with
  | some i => return i
  | none => throw (.notPosition "list" v.kind)

/-- The reply of a number and its place; below zero the number counts from the end. -/
def reply (v : Value) : Act (Nat × Reply Text) := do
  let number ← ordinal v
  let replies := (← get).replies
  let position := if number < 0 then number + replies.length else number
  if !Value.isIndex number then throw .hugeIndex
  if position < 0 then throw .noItem
  match replies[position.toNat]? with
  | some r => return (position.toNat, r)
  | none => throw .noItem

def settle (number : Nat) (r : Reply Text) (called : List Text) : Act Unit := do
  modify fun w => { w with replies := w.replies.set number r }
  called.forM fun tag => note (.done tag number r.isCancelled)

def mention (tag : Text) (reaction : List Step) : Act Unit :=
  modify fun w =>
    if (Keyed.get? tag w.receivers).isSome then w
    else { w with receivers := Keyed.set tag reaction w.receivers }

/-- What the class of an object binds to a name, and the name of the layer that binds it. -/
def found (o : Instance) (name : Text) : Act (Text × Member) :=
  match o.lineage.lookup? name with
  | some f => return f
  | none => throw (.noAttribute o.lineage.className name)

/-- The object of a name, which has to be a replica; `use` is what is asked of it. -/
def replica (id use : Text) : Act (Instance × Replica) := do
  let o ← object id
  match o.state with
  | .replica r => return (o, r)
  | _ => throw (.noAttribute o.lineage.className use)

/-- The object that has a signal, and the types of the signal; `use` is what is asked of the signal. -/
def signal (id name use : Text) : Act (Instance × List Text) := do
  let o ← object id
  match ← found o name with
  | (_, .signal types) => return (o, types)
  | (_, other) => throw (other.lacks use)

end Act
end Counterpart.Session
