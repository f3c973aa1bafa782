import Counterpart.Script.Native.Function

/-!
What is awaited: it is pending until a result is set or it is cancelled; callbacks are called once, when that
happens. A reply is what a replica gives its callers for it.
-/
namespace Counterpart.Script

variable {σ : Type} (o : Obj) (state : Prospect)

def heldFuture : Run σ (Prospect × List Obj) := do
  let .future state callbacks ← payloadOf o | return (.pending, [])
  return (state, callbacks)

def setFuture (callbacks : List Obj) : Run σ Unit := do
  if let .ref a := o then setPayload a (.future state callbacks)

def notify (callback future : Obj) : Run σ Unit :=
  attempt (do let _ ← call callback [future]) ["Exception"] fun _ => return ()

def settle : Run σ Unit := do
  let (_, callbacks) ← heldFuture o
  setFuture o state []
  for callback in callbacks do notify callback o

def isDone : Run σ Bool := do
  match ← heldFuture o with
  | (.pending, _) => return false
  | _ => return true

def futureRoutines : Routines σ :=
  let once (f : Obj → Obj) (self : Obj) : Run σ Obj := do
    match (← heldFuture self).1 with
    | .settled v => return f v
    | .cancelled => raiseBare "concurrent.futures.CancelledError"
    | .pending => raiseBare "TimeoutError"
  [("__init__", fun args => quietly do setFuture (nth args 0) .pending []),
   ("__repr__", fun args => do
      let state : Text := match (← heldFuture (nth args 0)).1 with
        | .pending => "pending"
        | .settled _ => "finished returned"
        | .cancelled => "cancelled"
      return .text (Text.concat ["<Future at ", placeText (nth args 0), " state=", state, ">"])),
   ("cancel", fun args => do
      match ← heldFuture (nth args 0) with
      | (.pending, _) =>
        settle (nth args 0) .cancelled
        return .truth true
      | (.cancelled, _) => return .truth true
      | (.settled _, _) => return .truth false),
   ("cancelled", fun args => do
      match ← heldFuture (nth args 0) with
      | (.cancelled, _) => return .truth true
      | _ => return .truth false),
   ("running", fun _ => return .truth false),
   ("done", fun args => .truth <$> isDone (nth args 0)),
   ("add_done_callback", fun args => do
      let (self, f) := (nth args 0, nth args 1)
      match ← heldFuture self with
      | (.pending, callbacks) => setFuture self .pending (callbacks ++ [f])
      | _ => notify f self
      return .none),
   ("result", of1 (once id)), ("exception", of1 (once fun _ => .none)),
   ("set_result", fun args => do
      if ← isDone (nth args 0) then raise "InvalidStateError" ["FINISHED: ", ← reprVia (nth args 0)]
      settle (nth args 0) (.settled (nth args 1))
      return .none)]

def deliver (future value : Obj) : Run σ Obj := do
  if ← truthOf (← callMethod future "done" []) then return .truth false
  attempt (do
    let _ ← callMethod future "set_result" [value]
    return .truth true) ["InvalidStateError", "concurrent.futures.CancelledError"] fun _ => return .truth false

def replyRoutines : Routines σ :=
  let future (self : Obj) : Run σ Obj := getAttr self "_future"
  let ask (method : Text) : Routine σ := of1 fun self => do callMethod (← future self) method []
  [("__init__", fun args => do
      setAttr (nth args 0) "_future" (nth args 1)
      setAttr (nth args 0) "return_type" (nth args 2)
      return .none),
   ("result", fun args => do callMethod (← future (nth args 0)) "result" [nth args 1]),
   ("done", ask "done"), ("cancel", ask "cancel"), ("cancelled", ask "cancelled"),
   ("add_done_callback", fun args => do
      let called ← newObject "function" (.function
        { name := "<lambda>", qualname := "PendingReply.add_done_callback.<locals>.<lambda>"
          slots := [selfSlot "_f"], body := .native "PendingReply" "called" [nth args 1, nth args 0] })
      let _ ← callMethod (← future (nth args 0)) "add_done_callback" [called]
      return .none),
   ("called", fun args => call (nth args 0) [nth args 1]),
   ("future", of1 future)]

end Counterpart.Script
