import Counterpart.Script.Native.Function

/-!
Numbers as bytes, the most significant first.
-/
namespace Counterpart.Script

variable {σ α : Type} (f : NumberFormat) (o : Obj)

def errorClass : FaultKind → String
  | .attribute => "AttributeError"
  | .type => "TypeError"
  | .value => "ValueError"
  | .key => "KeyError"
  | .index => "IndexError"
  | .overflow => "OverflowError"
  | .name => "NameError"
  | .layout => "struct.error"
  | .serialization => "SerializationError"
  | .replica => "ReplicaError"
  | .encoding => "UnicodeEncodeError"
  | .unimplemented => "NotImplementedError"
  | .memory => "MemoryError"
  | .recursion => "RecursionError"
  | .cancelled => "concurrent.futures.CancelledError"
  | .timeout => "TimeoutError"
  | .exhausted => "StopIteration"
  | _ => "RuntimeError"

def raiseFault (e : Fault) : Run σ α := do
  match e.message with
  | [] => throw (← newError (errorClass e.kind) [])
  | message => fail (errorClass e.kind) message

def ofExcept : Except Fault α → Run σ α
  | .ok a => return a
  | .error e => raiseFault e

def layoutError (message : Text) : Run σ α := fail "struct.error" message

def packedReal : Run σ (Double × Bool) := do
  match ← numberOf? o with
  | some (.real d) => return (d, false)
  | n? =>
    let d ← match ← special? o "__float__", ← special? o "__index__" with
      | none, none => layoutError LayoutFault.notReal.message
      | _, _ => tryCatch (realOf o) fun _ => layoutError LayoutFault.notReal.message
    return (d, match n? with | some (.int _) => true | _ => false)

def packBigFirst : Run σ Bytes := do
  match f with
  | .truth => return [if ← truthOf o then 1 else 0]
  | .single | .double =>
    let (d, isInteger) ← packedReal o
    (f.packReal? d).getDM do if isInteger then layoutError LayoutFault.tooLarge.message else raiseFault .singleOverflow
  | f =>
    let some _ ← special? o "__index__" | layoutError LayoutFault.notInteger.message
    let i ← indexOf o
    match f.packInteger i with
    | .ok b => return b
    | .error _ => layoutError (f.refusal i).message

def unpackBigFirst (data offset : Obj) : Run σ Obj := do
  let offset ← indexOf offset
  let some b ← bytesOf? data | typeError ["a bytes-like object is required, not '", ← typeName data, "'"]
  match f.read (← ofExcept (Bytes.window b offset f.size)) with
  | .truth b => return .truth b
  | .integer i => return .int i
  | .real d => return .real d
  | _ => return .none

end Counterpart.Script
