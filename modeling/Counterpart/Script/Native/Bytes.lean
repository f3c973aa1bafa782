import Counterpart.Script.Native.Text

/-!
The built-in operations of bytes, of blocks of bytes that can be changed, and of views of either.
-/
namespace Counterpart.Script

variable {σ : Type} (buffer : Bool) (label : Text) (o : Obj) (b : Bytes)

def byteOf (word : Text) (o : Obj) : Run σ UInt8 := do
  let i ← indexOf o
  if i < 0 || 255 < i then fail "ValueError" (word ++ " must be in range(0, 256)") else return UInt8.ofNat i.toNat

def byteInBuffer : Run σ UInt8 := byteOf "byte" o

def zeroBytes (i : Int) : Run σ Bytes := do
  match Value.zeroBytes i with
  | .ok b => return b
  | .error .tooLargeForIndex => fail "OverflowError" "cannot fit 'int' into an index-sized integer"
  | .error .negativeCount => fail "ValueError" "negative count"
  | .error .blockTooLarge => fail "OverflowError" "byte string is too large"
  | .error _ => throw (← newError "MemoryError" [])

def bytesFrom : Run σ Bytes := do
  match ← textOf? o with
  | some _ => typeError ["string argument without an encoding"]
  | none =>
    (← bytesOf? o).getDM do
      match ← special? o "__index__" with
      | some _ => zeroBytes (← indexOf o)
      | none =>
        let items ← itemsOr o do typeError ["cannot convert '", ← typeName o, "' object to ", label]
        items.mapM (byteOf (if label = "bytes" then "bytes" else "byte"))

def bytesFromArgs (args : List Obj) (named : Attrs) : Run σ Bytes := do
  let given ← namedArgs label ["source", "encoding", "errors"] 0 args named
  let encoding ← textOption label "encoding" "utf-8" (given.getD 1 none)
  let handler ← textOption label "errors" "strict" (given.getD 2 none)
  let isText := (given.getD 1 none).isSome || (given.getD 2 none).isSome
  let noText : Run σ Bytes :=
    typeError [if (given.getD 1 none).isSome then "encoding" else "errors", " without a string argument"]
  match given.getD 0 none with
  | none => if isText then noText else return []
  | some o =>
    if isText then
      let some t ← textOf? o | noText
      encodeText t encoding handler
    else
      let some f ← special? o "__bytes__" | bytesFrom label o
      if label = "bytes" then
        let v ← callSpecial f o []
        (← bytesOf? v).getDM do wrongResult "__bytes__" "bytes" v
      else bytesFrom label o

def heldBytes : Run σ Bytes := do return (← bytesOf? o).getD []

def likeBytes : Run σ Obj := if buffer then newObject "bytearray" (.buffer b) else return .bytes b

def soughtBytes : Run σ Bytes := do
  (← bytesOf? o).getDM do
    if let some _ ← special? o "__index__" then return [← byteInBuffer o]
    typeError ["argument should be integer or bytes-like object, not '", ← typeName o, "'"]

def bytePoints : Text := b.map fun x => CodePoint.ofNat x.toNat

def onlyBytes? : Run σ (Option Bytes) := do if ← isA o "bytes" then bytesOf? o else return none

def commonBytesNatives : Natives σ :=
  let name : String := if buffer then "bytearray" else "bytes"
  let label := name
  let seen? (view? : Obj → Run σ (Option Bytes)) (o : Obj) : Run σ (Option Obj) := do return (← view? o).map .bytes
  comparingNatives (seen? bytesOf?) (seen? (if buffer then bytesOf? else onlyBytes?)) ++
  searchNatives label heldBytes soughtBytes "subsection not found" ++ sequenceNatives heldBytes (likeBytes buffer) ++
  [("__iter__", operator0 fun self => do
      newIterator "bytes_iterator" ((← heldBytes self).map fun b => .int b.toNat)),
   ("__contains__", operator1 fun self o => do
      if let some part ← bytesOf? o then return .truth (Search.first? part (← heldBytes self)).isSome
      let some _ ← special? o "__index__" | typeError ["a bytes-like object is required, not '", ← typeName o, "'"]
      return .truth ((← heldBytes self).contains (← byteInBuffer o))),
   ("__add__", operator1 fun self o => do
      let some b ← bytesOf? o | typeError ["can't concat ", ← typeName o, " to ", label]
      likeBytes buffer ((← heldBytes self) ++ b)),
   ("__getitem__", operator1 fun self key => do
      let (range, bad) : Text × Text := if buffer then
        ("bytearray index out of range", "bytearray indices must be integers or slices, not ")
        else ("index out of range", "byte indices must be integers or slices, not ")
      match ← rowItems "bytes" (← heldBytes self) key range bad with
      | .inl b => return .int b.toNat
      | .inr b => likeBytes buffer b),
   ("join", joinNative label "a bytes-like object" bytesOf? Search.join (likeBytes buffer))]

def bytesNatives : Natives σ :=
  commonBytesNatives false ++
  [("__new__", fun args named => do
      let cls := args.headD .none
      valueIn cls "bytes" (.bytes (← bytesFromArgs "bytes" (args.drop 1) named))),
   ("__repr__", operator0 fun self => do return .text (Quoted.bytes (← heldBytes self))),
   ("__str__", operator0 fun self => do return .text (Quoted.bytes (← heldBytes self))),
   ("__bytes__", nullary "bytes.__bytes__" fun self => .bytes <$> heldBytes self),
   ("__hash__", operator0 fun self => do return .int (hashText (bytePoints (← heldBytes self))))]

def setBytes (self : Obj) (b : Bytes) : Run σ Unit := do
  if let .ref a := self then setPayload a (.buffer b)

def bufferNatives : Natives σ :=
  let change (self : Obj) (f : Bytes → Bytes) : Run σ Obj := do
    setBytes self (f (← heldBytes self))
    return .none
  let show' (self : Obj) : Run σ Obj := do
    return .text (Text.concat [← typeName self, "(", Quoted.bytes (← heldBytes self), ")"])
  commonBytesNatives true ++
  [("__new__", newBare (.buffer [])),
   ("__init__", fun args named => do
      let b ← bytesFromArgs "bytearray" (args.drop 1) named
      change (args.headD .none) fun _ => b),
   ("__repr__", operator0 show'), ("__str__", operator0 show'),
   ("__iadd__", operator1 fun self o => do
      let some b ← bytesOf? o | typeError ["can't concat ", ← typeName o, " to bytearray"]
      let _ ← change self (· ++ b)
      return self),
   ("append", unary "bytearray.append" fun self o => do
      let b ← byteInBuffer o
      change self (· ++ [b])),
   ("extend", unary "bytearray.extend" fun self o => do
      match ← bytesOf? o with
      | some b => change self (· ++ b)
      | none =>
        let b ← (← itemsOr o do typeError ["can't extend bytearray with ", ← typeName o]).mapM byteInBuffer
        change self (· ++ b))]

/-! ## Views -/

def newView : Run σ Obj := newObject "memoryview" (.value o)

def viewNatives : Natives σ :=
  [("__len__", operator0 fun self => do return .int (← heldBytes self).length),
   ("__iter__", operator0 fun self => do newIterator "bytes_iterator" ((← heldBytes self).map fun b => .int b.toNat))]

end Counterpart.Script
