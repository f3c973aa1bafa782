import Counterpart.Script.Native.Number
import Counterpart.Script.Native.Sequence

/-!
The built-in operations of tuples and lists, of ranges and slices, and of what gives items one by one.
-/
namespace Counterpart.Script

variable {σ α : Type} (isList : Bool) (o : Obj) (items : List Obj)

def rowLike? : Run σ (Option (List Obj)) := do
  let o ← plainValue o
  match o, ← payloadOf o with
  | .tuple items, _ => return if isList then none else some items
  | _, .list items => return if isList then some items else none
  | _, _ => return none

def heldItems : Run σ (List Obj) := do return ((← rowLike? true o) <|> (← rowLike? false o)).getD []

def rowOf : Run σ Obj := if isList then newList items else return .tuple items

def placeAmong (o : Obj) : List Obj → Nat → Run σ (Option Nat)
  | [], _ => return none
  | item :: rest, place => do if ← equalVia item o then return some place else placeAmong o rest (place + 1)

def rowNatives : Natives σ :=
  let label : Text := if isList then "list" else "tuple"
  (comparisons.map fun (name, op) => (name, operator1 fun self other => do
    match ← rowLike? isList self, ← rowLike? isList other with
    | some s, some t => compareItems op s t
    | _, _ => return .notImplemented)) ++
  sequenceNatives heldItems (rowOf isList) ++
  [("__iter__", operator0 fun self => do
      if isList then newStream "list_iterator" [self, .int 0] else newIterator "tuple_iterator" (← heldItems self)),
   ("__contains__", operator1 fun self o => do return .truth (← isMember o (← heldItems self))),
   ("__add__", operator1 fun self o => do
      match ← rowLike? isList o with
      | some items => rowOf isList ((← heldItems self) ++ items)
      | none => typeError ["can only concatenate ", label, " (not \"", ← typeName o, "\") to ", label]),
   ("__getitem__", operator1 fun self key => do
      match ← rowItems label (← heldItems self) key (label ++ " index out of range")
          (label ++ " indices must be integers or slices, not ") with
      | .inl o => return o
      | .inr items => rowOf isList items),
   ("count", unary (label ++ ".count") fun self o => do
      return .int (← (← heldItems self).filterM fun item => equalVia item o).length),
   ("index", fun args _ => do
      let o := args.getD 1 .none
      if let some place ← placeAmong o (← heldItems (args.headD .none)) 0 then return .int place
      if isList then raise "ValueError" [← reprVia o, " is not in list"]
      fail "ValueError" "tuple.index(x): x not in tuple")]

def itemsGiven (given : List Obj) : Run σ (List Obj) := (given.head?.map itemsOf).getD (return [])

def tupleNatives : Natives σ :=
  rowNatives false ++
  [("__new__", fun args named => do
      let cls := args.headD .none
      if cls.same (.ref (known "tuple")) then noNamed "tuple" named
      checkCount "tuple" 0 1 (args.drop 1)
      valueIn cls "tuple" (.tuple (← itemsGiven (args.drop 1)))),
   ("__repr__", operator0 fun self => do return .text (Quoted.tuple (← (← heldItems self).mapM reprVia))),
   ("__hash__", operator0 fun self => do return .int (hashRow (← (← heldItems self).mapM hashVia)))]

def setItems : Run σ Unit := do
  if let .ref a := o then setPayload a (.list items)

def setListItem : Native σ := operator2 fun self key value => do
  match ← slice? key with
  | some _ => call (.native .function "list" "splice") [self, key, value]
  | none =>
    let items ← heldItems self
    match ← special? key "__index__" with
    | none => typeError ["list indices must be integers or slices, not ", ← typeName key]
    | some _ =>
      let some place := placeFor items.length (← indexOf key) | fail "IndexError" "list assignment index out of range"
      setItems self (items.set place value)
      return .none

def insertSorted (key item : Obj) : Entries → Run σ Entries
  | [] => return [(key, item)]
  | (k, o) :: rest => do
    if ← truthOf (← compareVia .lt key k) then return (key, item) :: (k, o) :: rest
    return (k, o) :: (← insertSorted key item rest)

def sortByKeys (items : Entries) : Run σ (List Obj) := do
  return (← items.foldlM (fun sorted (k, o) => insertSorted k o sorted) []).map (·.2)

def sortItems (named : Attrs) : Run σ (List Obj) := do
  let keyed ← match nameIn? "key" named with
    | none | some .none => pure (items.map fun o => (o, o))
    | some f => items.mapM fun o => do return (← call f [o], o)
  if ← (nameIn? "reverse" named).elim (return false) truthOf then return (← sortByKeys keyed.reverse).reverse
  sortByKeys keyed

def listNatives : Natives σ :=
  let extend (self o : Obj) : Run σ Unit := do
    let new ← itemsOf o
    setItems self ((← heldItems self) ++ new)
  rowNatives true ++
  [("__new__", newBare (.list [])),
   ("__init__", orderedMethod [] "list" 0 1 fun self given => quietly do setItems self (← itemsGiven given)),
   ("__repr__", operator0 fun self => shownOnce self "[...]" do
      return Text.concat ["[", Text.join ", " (← (← heldItems self).mapM reprVia), "]"]),
   ("__setitem__", setListItem),
   ("__iadd__", operator1 fun self o => do
      extend self o
      return self),
   ("append", unary "list.append" fun self o => quietly do setItems self ((← heldItems self) ++ [o])),
   ("extend", unary "list.extend" fun self o => quietly do extend self o),
   ("pop", orderedMethod "list." "pop" 0 1 fun self given => do
      let items ← heldItems self
      let i ← indexOf (given.headD (.int (-1)))
      if items.isEmpty then fail "IndexError" "pop from empty list"
      let some place := placeFor items.length i | fail "IndexError" "pop index out of range"
      setItems self (items.eraseIdx place)
      return items.getD place .none),
   ("remove", unary "list.remove" fun self o => do
      let items ← heldItems self
      let some place ← placeAmong o items 0 | fail "ValueError" "list.remove(x): x not in list"
      setItems self (items.eraseIdx place)
      return .none),
   ("sort", fun args named => do
      let self := args.headD .none
      if 1 < args.length then typeError ["sort() takes no positional arguments"]
      setItems self (← sortItems (← heldItems self) named)
      return .none),
   ("__reversed__", nullary "list.__reversed__" fun self => do
      newStream "list_reverseiterator" [self, .int ((← heldItems self).length - 1)])]

/-! ## Ranges and slices -/

def heldRange : Run σ (Int × Int × Int) := do
  let .range a b c ← payloadOf o | return (0, 0, 1)
  return (a, b, c)

/-- The start, the stop and the step, which the stop may be given without. -/
def bounds (start step : α) : List α → α × α × α
  | [stop] => (start, stop, step)
  | given => (given.headD start, given.getD 1 start, given.getD 2 step)

def newRange : Native σ := orderedMethod [] "range" 1 3 fun _ given => do
  let (start, stop, step) := bounds 0 1 (← given.mapM indexOf)
  if step = 0 then fail "ValueError" "range() arg 3 must not be zero"
  newObject "range" (.range start stop step)

def rangeNatives : Natives σ :=
  [("__new__", newRange),
   ("__len__", operator0 fun self => do
      let (a, b, c) ← heldRange self
      let n := rangeLength a b c
      if 2 ^ 63 ≤ n then fail "OverflowError" "Python int too large to convert to C ssize_t"
      return .int n),
   ("__iter__", operator0 fun self => do
      let (a, b, c) ← heldRange self
      newObject "range_iterator" (.range a b c))]

def sliceNatives : Natives σ :=
  [("__new__", orderedMethod [] "slice" 1 3 fun _ given =>
      let (start, stop, step) := bounds .none .none given
      newObject "slice" (.slice start stop step)),
   ("indices", unary "slice.indices" fun self o => do
      let n ← indexOf o
      let some (a, b, c) ← slice? self | return .none
      if n < 0 then fail "ValueError" "length should not be negative"
      let span ← spanFor n.toNat a b c
      return .tuple [.int span.start, .int span.stop, .int span.step])]

end Counterpart.Script
