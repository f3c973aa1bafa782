import Counterpart.Object.Query
import Counterpart.Object.Replica

/-!
The steps of a session: what is done, in which order, to the registry of types and to objects of the
classes of a unit. Values are written down in a form that is evaluated when its step is taken.
-/
namespace Counterpart.Session

/-- The classes that steps know beside those of the unit. A value of one of them holds a number. -/
def outsideClasses : List Text := ["A", "B", "C"]

inductive Datum where
  | plain (v : Value)
  | list (items : List Datum)
  | enumerator (cls name : Text)
  | record (cls : Text) (fields : List Datum)

namespace Datum

mutual
def eval (m : Module) : Datum → Except Fault Value
  | .plain v => .ok v
  | .list items => (evalAll m items).map .list
  | .enumerator cls name =>
    match m.enumClass? cls with
    | none => .error (.unknownKey cls)
    | some plan =>
      match plan.named? cls name with
      | none => .error (.unknownKey name)
      | some v => .ok v
  | .record cls fields =>
    match m.recordClass? cls with
    | none => .error (.unknownKey cls)
    | some r => do m.record cls r (← evalAll m fields)

def evalAll (m : Module) : List Datum → Except Fault (List Value)
  | [] => .ok []
  | d :: rest => do
    let v ← eval m d
    let vs ← evalAll m rest
    return v :: vs
end

end Datum

structure Sketch where
  name : Text
  bases : List Text := []
  remoteType? : Option Text := none
  properties? : Option (List Text) := none
  members : List (Text × Member) := []

inductive Subject where
  | sketched (sketches : List Sketch)
  | compiled (name : Text)

inductive BoundType where
  | sketched (sketches : List Sketch)
  | implemented (slots? : Option (List (Text × Datum)))

/-- One step. Objects are kept under names, and replies under numbers from zero on. -/
inductive Step where
  -- the registry
  | types
  | register
  | registerType (name : Text) (type : Text) (asByte : Bool)
  | lookupType (name : Text)
  | typeId (name : Text)
  | typeName (id : Value)
  | isBuiltin (name : Text)
  -- values on the wire
  | pack (type : Text) (value : Datum)
  | unpack (type : Text) (data : Bytes) (offset : Value)
  | packArguments (types : List Text) (values : Datum)
  | unpackArguments (types : List Text) (data : Bytes) (offset : Value)
  | value (value : Datum)
  | equal (a b : Datum)
  | members (cls : Text)
  | convert (cls : Text) (raw : Value)
  | fromWire (cls : Text) (raw : Value)
  | baseCodec (function : Text)
  -- objects
  | replica (id cls : Text) (node? : Option Text) (name : Text)
  | bareReplica (id remoteType name : Text) (node? : Option Text) (values : Datum)
  | source (id cls : Text) (slots? : Option (List (Text × Datum)))
  | instantiate (id cls : Text)
  | undefined (cls : Text)
  | tables (cls : Text)
  | signalOf (cls name : Text)
  | has (cls name : Text)
  | setNode (id : Text) (node? : Option Text)
  | getNode (id : Text)
  | setProperty (id : Text) (index : Value) (value : Datum)
  | propertyValue (id : Text) (index : Value)
  | propertyAs (id : Text) (index : Value) (expected? : Option Text) (name : Text)
  | call (id name : Text) (args : List Datum)
  | send (id kind : Text) (index : Value) (args : Datum) (returnType? : Option Text)
  -- signals
  | connect (id signal tag : Text) (reaction : List Step)
  | disconnect (id signal tag : Text) (reaction : List Step)
  | emit (id signal : Text) (args : List Datum)
  | receivers (id signal : Text)
  | raise (message : Text)
  -- replies
  | deliver (reply : Value) (value : Datum)
  | cancel (reply : Value)
  | replyState (reply : Value)
  | result (reply : Value)
  | onDone (reply : Value) (tag : Text)
  | await (reply : Value) (value : Datum)
  -- classes
  | metaObject (subject : Subject) (find : List Text)
  | bind (id cls : Text) (type : BoundType)
  | bindBare (id : Text) (sketches : List Sketch) (name : Text) (typeName? : Option Text)
  | query (id function : Text) (args : List Value)
  | descriptor (id : Text)

inductive Answer where
  | nothing
  | truth (b : Bool)
  | number (i : Int)
  | text (t : Text)
  | bytes (b : Bytes)
  | value (v : Value)
  | list (items : List Answer)
  | reply (number : Nat) (returnType : Text)
  | cancelled
  | metaObject (m : MetaObject) (find : List Text)
  | descriptor (d : Descriptor)
  | entries (named : List (Text × Answer))

inductive Event where
  | received (tag : Text) (args : List Value)
  | ran (slot : Text) (args : List Value)
  | done (tag : Text) (reply : Nat) (cancelled : Bool)

inductive Trouble where
  | fault (f : Fault)
  /-- An error of a class of the unit or of a built-in class, by the name of the class. -/
  | error (cls message : Text)

structure Sent where
  node : Text
  kind : Text
  index : Value
  args : List Value
  sequence : Value

/-- One of several for a step, by what the step is about. -/
def Step.pick {α : Type} (wire cls reply signal object : α) : Step → α
  | .types | .register | .registerType .. | .lookupType _ | .typeId _ | .typeName _ | .isBuiltin _
  | .pack .. | .unpack .. | .packArguments .. | .unpackArguments .. | .value _ | .equal ..
  | .baseCodec _ => wire
  | .undefined _ | .tables _ | .signalOf .. | .has .. | .metaObject .. | .bind .. | .bindBare ..
  | .descriptor _ | .members _ | .convert .. | .fromWire .. => cls
  | .deliver .. | .cancel _ | .replyState _ | .result _ | .onDone .. | .await .. => reply
  | .connect .. | .disconnect .. | .emit .. | .receivers .. | .raise _ => signal
  | _ => object

structure Outcome where
  answer : Except Trouble Answer
  sent : List Sent
  events : List Event
  log : List Text

end Counterpart.Session
