import Counterpart.Script.Support.Reply

/-!
Signals, replicas and what they derive from.
-/
namespace Counterpart.Script

variable {σ : Type}

def make (cls : String) (args : List Obj) (named : Attrs := []) : Run σ Obj := call (.ref (known cls)) args named

def signalRoutines : Routines σ :=
  [("__init__", fun args => do
      setAttr (nth args 0) "types" (nth args 1)
      setAttr (nth args 0) "name" (.text [])
      return .none),
   ("__set_name__", fun args => quietly do setAttr (nth args 0) "name" (nth args 2)),
   ("__get__", fun args => do
      let (self, o) := (nth args 0, nth args 1)
      match o with
      | .none => return self
      | o =>
        let bound ← make "BoundSignal" [← getAttr self "name", ← getAttr self "types"]
        setItem (← getAttr o "__dict__") (← getAttr self "name") bound
        return bound)]

def boundSignalRoutines : Routines σ :=
  let receivers (self : Obj) : Run σ Obj := getAttr self "_receivers"
  let change (method : Text) : Routine σ := of2 fun self receiver => do
    let _ ← callMethod (← receivers self) method [receiver]
    return .none
  [("__init__", fun args => do
      setAttr (nth args 0) "name" (nth args 1)
      setAttr (nth args 0) "types" (nth args 2)
      setAttr (nth args 0) "_receivers" (← newList [])
      return .none),
   ("connect", change "append"), ("disconnect", change "remove"),
   ("emit", fun args => do
      let given ← itemsOf (nth args 1)
      for receiver in ← itemsOf (← receivers (nth args 0)) do
        let _ ← call receiver given
      return .none),
   ("receivers", fun args => do return .int (← lengthOf (← receivers (nth args 0))))]

def shownIn (o : Obj) : Run σ Text := do strOf (← call (builtin "format") [o])

def warnOf (template : Text) (args : List Obj) : Run σ Unit := do
  warn (← strOf (← operate .modulo (.text template) (.tuple args)))

def isOutside (index : Obj) (count : Run σ Obj) : Run σ Bool := do
  if ← truthOf (← compareObjs .lt index (.int 0)) then return true
  truthOf (← compareObjs .ge index (← count))

def replicaInvocation (self kind index args : Obj) : Run σ Obj := do
  match ← getAttr self "_node" with
  | .none => raise "ReplicaError" [← shownIn (← getAttr self "_name"), " is not attached to a node"]
  | _ =>
    let row := Obj.tuple (← itemsOf args)
    let sequence ← call (builtin "next") [← getAttr self "_sequence"]
    newWith "Invocation" .nothing [("kind", kind), ("index", index), ("args", row), ("sequence", sequence)]

def sent (method : Text) (args : List Obj) : Run σ Obj := do
  let self := nth args 0
  let invocation ← callMethod self "_invocation" [nth args 1, nth args 2, nth args 3]
  callMethod (← getAttr self "_node") method [invocation]

def replicaRoutines : Routines σ :=
  [("__init__", fun args => do
      let self := nth args 0
      setAttr self "_node" (nth args 1)
      let name ← if ← truthOf (nth args 2) then pure (nth args 2) else getAttr self "_remote_type_"
      setAttr self "_name" name
      setAttr self "_properties" (← newList [])
      setAttr self "_sequence" (← make "count" [])
      return .none),
   ("node", of1 (getAttr · "_node")),
   ("setNode", fun args => quietly do setAttr (nth args 0) "_node" (nth args 1)),
   ("_set_properties", fun args => quietly do setAttr (nth args 0) "_properties" (← newList (← itemsOf (nth args 1)))),
   ("set_property", fun args => do
      let (self, index) := (nth args 0, nth args 1)
      let count : Run σ Obj := do return .int (← lengthOf (← getAttr self "_properties"))
      if ← isOutside index count then
        warnOf "%s ignored an update for unknown property %d" [← getAttr self "_name", index]
        return .truth false
      setItem (← getAttr self "_properties") index (nth args 2)
      return .truth true),
   ("_property_value", fun args => do getItem (← getAttr (nth args 0) "_properties") (nth args 1)),
   ("_property_as", fun args => do
      let (self, expected) := (nth args 0, nth args 2)
      let value ← getItem (← getAttr self "_properties") (nth args 1)
      match expected with
      | .none => return value
      | expected =>
        if ← isInstance value expected then return value
        attempt (call expected [value]) ["TypeError", "ValueError"] fun _ => do
          let name := (← getAttr? expected "__name__").getD expected
          warnOf "%s cannot convert the property %s to type %s" [← getAttr self "_name", nth args 3, name]
          return value),
   ("_invocation", fun args => replicaInvocation (nth args 0) (nth args 1) (nth args 2) (nth args 3)),
   ("_send", fun args => do
      let _ ← sent "send" args
      return .none),
   ("_send_with_reply", fun args => do make "PendingReply" [← sent "send_with_reply" args, nth args 4])]

def channelRoutines : Routines σ :=
  [("send", fun _ => return .none), ("send_with_reply", fun _ => return .none),
   ("__subclasshook__", fun _ => return .notImplemented),
   ("__init__", fun args => do
      if ← truthOf (← getAttr (.ref (← typeOf (nth args 0))) "_is_protocol") then
        typeError ["Protocols cannot be instantiated"]
      return .none)]

end Counterpart.Script
