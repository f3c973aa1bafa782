import Counterpart.Wire.Number

/-!
Texts, bytes and lists of texts: a length in 32 bits, then the content. The largest length says that
there is nothing at all, and reads as something empty.
-/
namespace Counterpart.Sized

def nothing : Nat := 0xFFFFFFFF

def packLength (n : Nat) : Except Fault Bytes := (NumberFormat.uint32.packInteger n).mapError .layout

def packText (t : Text) : Except Fault Bytes := do
  let units ← (Utf16.encode t).mapError Fault.unencodable
  let length ← packLength units.length
  return length ++ units

def packTextValue : Value → Except Fault Bytes
  | .none => packLength nothing
  | .text t => packText t
  | v => .error (v.lacks "encode")

def packBytesValue : Value → Except Fault Bytes
  | .none => packLength nothing
  | v => do
    let length ← packLength (← v.length)
    let content ← v.toBytes
    return length ++ content

def packTextValues : List Value → Except Fault Bytes
  | [] => .ok []
  | v :: rest => do
    let first ← packTextValue v
    let later ← packTextValues rest
    return first ++ later

def packTextsValue (v : Value) : Except Fault Bytes := do
  let items ← v.toItems
  let count ← packLength items.length
  let content ← packTextValues items
  return count ++ content

def readLength (data : Bytes) (offset : Int) : Except Fault (Option Nat) :=
  match data.window offset 4 with
  | .ok b => .ok (if ofBigEndian b = nothing then none else some (ofBigEndian b))
  | .error (.layout _) => .error (.truncatedLength offset)
  | .error e => .error e

def take (data : Bytes) (offset : Int) (length : Nat) : Except Fault Bytes :=
  if data.length < offset + length then .error (.missingBytes length offset (data.length - offset))
  else .ok (data.between offset (offset + length))

def readText (data : Bytes) (offset : Int) : Except Fault (Text × Nat) := do
  match ← readLength data offset with
  | none => return ([], 4)
  | some length =>
    let content ← take data (offset + 4) length
    match Utf16.decode content with
    | .ok t => return (t, 4 + length)
    | .error e => throw (.undecodable offset e)

def readBytes (data : Bytes) (offset : Int) : Except Fault (Bytes × Nat) := do
  match ← readLength data offset with
  | none => return ([], 4)
  | some length =>
    let content ← take data (offset + 4) length
    return (content, 4 + length)

def readItems (data : Bytes) : Nat → Int → Except Fault (List Text × Nat)
  | 0, _ => .ok ([], 0)
  | count + 1, offset => do
    let (t, size) ← readText data offset
    let (rest, sizes) ← readItems data count (offset + size)
    return (t :: rest, size + sizes)

def readTexts (data : Bytes) (offset : Int) : Except Fault (List Text × Nat) := do
  let count := (← readLength data offset).getD 0
  let (items, size) ← readItems data count (offset + 4)
  return (items, 4 + size)

end Counterpart.Sized
