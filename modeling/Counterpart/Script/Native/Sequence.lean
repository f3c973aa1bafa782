import Counterpart.Script.Native.Basic

/-!
Items of rows by number: numbers below zero count from the end, and slices take several items.
-/
namespace Counterpart.Script

variable {σ α : Type} (length : Nat) (o : Obj)

def placeFor (i : Int) : Option Nat :=
  let place := if i < 0 then i + length else i
  if 0 ≤ place && place < length then some place.toNat else none

structure Span where
  start : Int
  stop : Int
  step : Int

def Span.places (s : Span) : List Nat :=
  (rangeItems s.start s.stop s.step).filterMap fun
    | .int i => some i.toNat
    | _ => none

def spanFor (start stop step : Obj) : Run σ Span := do
  let bound (o : Obj) : Run σ (Option Int) := do
    match o with
    | .none => return none
    | o =>
      match ← special? o "__index__" with
      | some _ => some <$> indexOf o
      | none => typeError ["slice indices must be integers or None or have an __index__ method"]
  let pace := (← bound step).getD 1
  if pace = 0 then fail "ValueError" "slice step cannot be zero"
  let n : Int := length
  let (low, high) : Int × Int := if pace < 0 then (-1, n - 1) else (0, n)
  let clamp (i : Int) : Int := let j := if i < 0 then i + n else i; max low (min high j)
  let first := ((← bound start).map clamp).getD (if pace < 0 then high else low)
  let last := ((← bound stop).map clamp).getD (if pace < 0 then low else high)
  return ⟨first, last, pace⟩

def slice? : Run σ (Option (Obj × Obj × Obj)) := do
  let .slice a b c ← payloadOf o | return none
  return some (a, b, c)

def rowItems (kind : Text) (items : List α) (key : Obj) (outOfRange badKey : Text) :
    Run σ (α ⊕ List α) := do
  match ← slice? key with
  | some (a, b, c) => return .inr ((← spanFor items.length a b c).places.filterMap fun n => items[n]?)
  | none =>
    match ← special? key "__index__" with
    | none =>
      let _ := kind
      typeError [badKey, ← if kind = "string" then do pure (Text.concat ["'", ← typeName key, "'"]) else typeName key]
    | some _ =>
      let i ← indexOf key
      if i < -(2 ^ 63) || 2 ^ 63 ≤ i then fail "IndexError" "cannot fit 'int' into an index-sized integer"
      match (placeFor items.length i).bind fun n => items[n]? with
      | some item => return .inl item
      | none => fail "IndexError" outOfRange

def repeatCount : Run σ Nat := do
  let some _ ← special? o "__index__" | typeError ["can't multiply sequence by non-int of type '", ← typeName o, "'"]
  return (← indexOf o).toNat

/-- What all rows have in common. -/
def sequenceNatives (held : Obj → Run σ (List α)) (made : List α → Run σ Obj) : Natives σ :=
  let times : Native σ := operatorTimes fun self o => do made (List.replicate (← repeatCount o) (← held self)).flatten
  [("__len__", operator0 fun self => do return .int (← held self).length), ("__mul__", times), ("__rmul__", times)]

def itemsOr (refusal : Run σ (List Obj)) : Run σ (List Obj) := do
  let (none, none) := (← special? o "__iter__", ← special? o "__getitem__") | itemsOf o
  refusal

/-- Joining texts or bytes, each of which goes by this name. -/
def joinNative (owner kind : Text) (part? : Obj → Run σ (Option (List α)))
    (join : List α → List (List α) → List α) (made : List α → Run σ Obj) : Native σ :=
  unary (owner ++ ".join") fun self o => do
    let separator ← part? self
    let parts ← (← itemsOr o (typeError ["can only join an iterable"])).zipIdx.mapM fun (item, place) => do
      (← part? item).getDM do
        typeError ["sequence item ", Text.ofNat place, ": expected ", kind, ", ", ← typeName item, " found"]
    made (join (separator.getD []) parts)

/-- Comparing what can be seen as texts or bytes. -/
def comparingNatives (self? other? : Obj → Run σ (Option Obj)) : Natives σ :=
  comparisons.map fun (name, op) => (name, operator1 fun self other => do
    let (some s, some t) := (← self? self, ← other? other) | return .notImplemented
    return (comparePlain? op s t).getD .notImplemented)

end Counterpart.Script
