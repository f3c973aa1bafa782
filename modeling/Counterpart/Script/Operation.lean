import Counterpart.Script.Attribute
import Counterpart.Script.Number

/-!
What can be asked of any object: whether it counts as true, how many items it has and which, its hash,
whether it equals another, and how it is shown. Values that stand for themselves answer at once; others are
asked by way of the special methods of their classes.
-/
namespace Counterpart.Script

variable {σ α : Type} (cls : Address) (it : Obj) (method name : Text) (op : CompareOp)
variable (places : Array (Option (Int × Obj))) (o a b : Obj) (args : List Obj)

def Obj.number? : Obj → Option Number
  | .truth b => some (.int (if b then 1 else 0))
  | .int i => some (.int i)
  | .real d => some (.real d)
  | .complex re im => some (.complex re im)
  | _ => Option.none

def Number.toObj : Number → Obj
  | .int i => .int i
  | .real d => .real d
  | .complex re im => .complex re im

def plainValue : Run σ Obj := do
  let .value v ← payloadOf o | return o
  return v

def builtin (name : String) : Obj := .native .function "builtins" name

def wrongResult (expected : Text) (o : Obj) : Run σ α := do
  typeError [name, " returned non-", expected, " (type ", ← typeName o, ")"]

/-! ## Truth, length, indices -/

def intFrom (f o : Obj) : Run σ Int := do
  let v ← plainValue (← callSpecial f o [])
  let some (.int i) := v.number? | wrongResult method "int" v
  return i

def indexOf : Run σ Int := do
  if let some (.int i) := (← plainValue o).number? then return i
  match ← special? o "__index__" with
  | some f => intFrom "__index__" f o
  | none => typeError ["'", ← typeName o, "' object cannot be interpreted as an integer"]

def lengthOf : Run σ Nat := do
  match o with
  | .text t => return t.length
  | .bytes b => return b.length
  | .tuple items => return items.length
  | o =>
    let some f ← special? o "__len__" | typeError ["object of type '", ← typeName o, "' has no len()"]
    let i ← indexOf (← callSpecial f o [])
    if i < 0 then fail "ValueError" "__len__() should return >= 0" else return i.toNat

def truthOf : Run σ Bool := do
  match o with
  | .none => return false
  | .truth b => return b
  | .int i => return i ≠ 0
  | .real d => return !d.isZero
  | .complex re im => return !(re.isZero && im.isZero)
  | .text t => return !t.isEmpty
  | .bytes b => return !b.isEmpty
  | .tuple items => return !items.isEmpty
  | .ref _ =>
    match ← special? o "__bool__" with
    | some f =>
      match ← callSpecial f o [] with
      | .truth b => return b
      | v => typeError ["__bool__ should return bool, returned ", ← typeName v]
    | none => if (← special? o "__len__").isSome then return (← lengthOf o) ≠ 0 else return true
  | _ => return true

/-! ## Items -/

def takenHash : Int := -1

def memberEntries : List (Int × Obj) :=
  places.toList.filterMap fun p => p.bind fun entry => if entry.1 = takenHash then none else some entry

def membersOf : List Obj := (memberEntries places).map (·.2)

def attrEntries (attrs : Attrs) : Entries := attrs.map fun (name, v) => (.text name, v)

def entriesOf : Run σ Entries := do
  match ← payloadOf o with
  | .dict entries => return entries
  | .attributes a | .view a => return attrEntries (← shownAttrs a)
  | .value (.ref a) =>
    match (← cellAt a).payload with
    | .dict entries => return entries
    | .attributes b => return attrEntries (← shownAttrs b)
    | _ => return []
  | _ => return []

def rangeLength (a b c : Int) : Nat :=
  if c = 0 then 0 else if 0 < c then ((b - a + c - 1).fdiv c).toNat else ((a - b - c - 1).fdiv (-c)).toNat

def rangeItems (start stop step : Int) : List Obj :=
  (List.range (rangeLength start stop step)).map fun (n : Nat) => .int (start + step * n)

def plainItems? : Obj → Option (List Obj)
  | .text t => some (t.map fun c => .text [c])
  | .bytes b => some (b.map fun x => .int x.toNat)
  | .tuple items => some items
  | _ => Option.none

def builtinItems? : Run σ (Option (List Obj)) := do
  match o, ← payloadOf o with
  | _, .list items => return some items
  | _, .dict entries => return some (entries.map (·.1))
  | _, .attributes b | _, .view b => return some ((← shownAttrs b).map fun (name, _) => .text name)
  | _, .set places => return some (membersOf places)
  | _, .buffer b => return plainItems? (.bytes b)
  | .ref a, .range start stop step =>
    if (← cellAt a).cls ≠ known "range" then setPayload a (.range 0 0 1)
    return some (rangeItems start stop step)
  | .ref a, .iterator items =>
    setPayload a (.iterator [])
    return some items
  | _, .value v => return plainItems? v
  | o, _ => return plainItems? o

def entryPart (entry : Obj × Obj) : Obj :=
  let among (keys : List String) : Bool := (keys.map known).contains cls
  if among ["dict_valueiterator", "dict_reversevalueiterator"] then entry.2
  else if among ["dict_itemiterator", "dict_reverseitemiterator"] then .tuple [entry.1, entry.2] else entry.1

def backwardClasses : List String :=
  ["dict_reversekeyiterator", "dict_reversevalueiterator", "dict_reverseitemiterator"]

/-- The item at a place of a container that an iterator of a class goes through; a container must not change its
size on the way. -/
def streamItem? (container : Obj) (place : Int) (size? : Option Int) : Run σ (Option Obj) := do
  let check (now : Nat) (what : Text) : Run σ Unit := do
    if let some size := size? then
      if size ≠ now then fail "RuntimeError" (what ++ " changed size during iteration")
  match ← payloadOf container with
  | .list items => return if place < 0 then none else items[place.toNat]?
  | .buffer b => return (b[place.toNat]?).map fun x => .int x.toNat
  | .set places =>
    let members := membersOf places
    check members.length "Set"
    return members[place.toNat]?
  | _ =>
    let entries ← entriesOf container
    check entries.length "dictionary"
    let entries := if backwardClasses.any fun key => cls = known key then entries.reverse else entries
    return (entries[place.toNat]?).map (entryPart cls)

/-- The next item of an iterator over items that are there already; nothing if it is another sort of iterator. -/
def storedItem? (a : Address) : Run σ (Option (Option Obj)) := do
  let c ← cellAt a
  match c.payload with
  | .iterator (item :: rest) =>
    setPayload a (.iterator rest)
    return some (some item)
  | .iterator [] => return some none
  | .range start stop step =>
    if rangeLength start stop step = 0 then return some none
    setPayload a (.range (start + step) stop step)
    return some (some (.int start))
  | .stream (container :: .int place :: rest) =>
    let size? := match rest with
      | .int size :: _ => some size
      | _ => none
    let isBackward := c.cls = known "list_reverseiterator"
    match ← streamItem? c.cls container place size? with
    | some item =>
      setPayload a (.stream (container :: .int (if isBackward then place - 1 else place + 1) :: rest))
      return some (some item)
    | none =>
      setPayload a (.iterator [])
      return some none
  | _ => return none

def storedClasses : List String :=
  ["list_iterator", "list_reverseiterator", "tuple_iterator", "str_ascii_iterator", "str_iterator", "bytes_iterator",
   "bytearray_iterator", "memory_iterator", "range_iterator", "longrange_iterator", "set_iterator",
   "dict_keyiterator", "dict_valueiterator", "dict_itemiterator"] ++ backwardClasses

def storedPlaces : List Address := storedClasses.map known

def nextOf? : Run σ (Option Obj) := do
  if let .ref a := it then
    if storedPlaces.contains (← cellAt a).cls then
      if let some item? ← storedItem? a then return item?
  let some f ← special? it "__next__" | typeError ["'", ← typeName it, "' object is not an iterator"]
  attempt (do return some (← callSpecial f it [])) ["StopIteration"] fun _ => return none

def newIterator (cls : String) (items : List Obj) : Run σ Obj := newObject cls (.iterator items)

def newStream (cls : String) (parts : List Obj) : Run σ Obj := newObject cls (.stream parts)

def iteratorOf : Run σ Obj := do
  let refuse : Run σ Obj := do typeError ["'", ← typeName o, "' object is not iterable"]
  match ← special? o "__iter__" with
  | some .none => refuse
  | none => if (← special? o "__getitem__").isSome then newStream "iterator" [o, .int 0] else refuse
  | some f =>
    let it ← callSpecial f o []
    if (← special? it "__next__").isSome then return it
    typeError ["iter() returned non-iterator of type '", ← typeName it, "'"]

def drain (it : Obj) : Nat → List Obj → Run σ (List Obj)
  | 0, given => return given.reverse
  | count + 1, given => do
    let some item ← nextOf? it | return given.reverse
    drain it count (item :: given)

def firstAmong? (action : Obj → Run σ (Option α)) : Run σ (Option α) := do
  let it ← iteratorOf o
  repeatUntil do
    let some item ← nextOf? it | return some none
    return (← action item).map some

def itemsOf : Run σ (List Obj) := do
  let some (.native .operator _ "__iter__") ← special? o "__iter__" | drain (← iteratorOf o) repeatLimit []
  (← builtinItems? o).getDM do drain (← iteratorOf o) repeatLimit []

/-! ## Showing -/

def intText (i : Int) : Run σ Text :=
  if i.natAbs ≥ 10 ^ Numeral.digitLimit then
    raise "ValueError" ["Exceeds the limit (", Text.ofNat Numeral.digitLimit,
      " digits) for integer string conversion; use sys.set_int_max_str_digits() to increase the limit"]
  else return Text.ofInt i

def reprVia : Run σ Text := do
  match o with
  | .text t => return Quoted.text t
  | .int i => intText i
  | .none => return "None"
  | o =>
    let .text t ← plainValue (← call (builtin "repr") [o]) | return []
    return t

/-- What a special method shows an object as, if its class has that method. -/
def shownBy? : Run σ (Option Text) := do
  let some f ← special? o method | return none
  let shown ← callSpecial f o []
  let .text t ← plainValue shown | wrongResult method "string" shown
  return some t

def reprOf : Run σ Text := do
  match o with
  | .none => return "None"
  | .notImplemented => return "NotImplemented"
  | .ellipsis => return "Ellipsis"
  | .truth b => return if b then "True" else "False"
  | .int i => intText i
  | .real d => return d.text
  | .complex re im => return Literal.complexText re im
  | .text t => return Quoted.text t
  | .bytes b => return Quoted.bytes b
  | .tuple items => return Quoted.tuple (← items.mapM reprVia)
  | o => (← shownBy? "__repr__" o).getDM do return Text.concat ["<", ← typeName o, " object>"]

def strOf : Run σ Text := do
  match o with
  | .text t => return t
  | .ref _ => (← shownBy? "__str__" o).getDM (reprOf o)
  | o => reprOf o

/-! ## Hashes and equality -/

def hashText (t : Text) : Int :=
  Number.fixHash (Number.wrapHash (t.foldl (fun h c => (h * 1000003 + c.val + 7) % 2 ^ 61) 5381 : Nat))

def hashVia : Run σ Int := do
  match o with
  | .text t => return hashText t
  | .int i => return Number.hashInt i
  | o =>
    let .int i ← call (builtin "hash") [o] | return 0
    return i

def hashOf : Run σ Int := do
  match o with
  | .none => return 0xfca86420
  | .notImplemented => return 0xfca86421
  | .ellipsis => return 0xfca86422
  | .text t => return hashText t
  | .bytes b => return hashText (b.map fun x => CodePoint.ofNat x.toNat)
  | .tuple items => return hashRow (← items.mapM hashVia)
  | .native _ owner name => return hashText (owner ++ "." ++ name)
  | .bound _ _ owner name => return hashText (owner ++ " " ++ name)
  | .ref _ =>
    match ← special? o "__hash__" with
    | none | some .none => typeError ["unhashable type: '", ← typeName o, "'"]
    | some f =>
      match (← plainValue (← callSpecial f o [])).number? with
      | some (.int i) => return if Number.wrapHash i = i then Number.fixHash i else Number.hashInt i
      | _ => typeError ["__hash__ method should return an integer"]
  | o => return (o.number?.map Number.hash).getD 0

def CompareOp.methods : CompareOp → Text × Text
  | .eq => ("__eq__", "__eq__")
  | .ne => ("__ne__", "__ne__")
  | .lt => ("__lt__", "__gt__")
  | .le => ("__le__", "__ge__")
  | .gt => ("__gt__", "__lt__")
  | _ => ("__ge__", "__le__")

def CompareOp.holds (o : Ordering) : Bool :=
  match op with
  | .eq => o = .eq
  | .ne => o ≠ .eq
  | .lt => o = .lt
  | .le => o ≠ .gt
  | .gt => o = .gt
  | _ => o ≠ .lt

def compareRows (before : α → α → Bool) : List α → List α → Ordering
  | [], [] => .eq
  | [], _ :: _ => .lt
  | _ :: _, [] => .gt
  | a :: s, b :: t => if before a b then .lt else if before b a then .gt else compareRows before s t

/-- What the comparison tells if objects can only be the same or not. -/
def CompareOp.onlyEqual? (same : Bool) : CompareOp → Option Obj
  | .eq => some (.truth same)
  | .ne => some (.truth !same)
  | _ => none

def comparePlain? : Option Obj :=
  let ordered (o : Ordering) : Option Obj := some (.truth (op.holds o))
  match a, b with
  | .text s, .text t => ordered (compareRows (fun (x y : CodePoint) => decide (x < y)) s t)
  | .bytes s, .bytes t => ordered (compareRows (fun (x y : UInt8) => decide (x < y)) s t)
  | .none, .none => op.onlyEqual? true
  | .ref _, _ | _, .ref _ | .tuple _, _ | _, .tuple _ | .bound .., _ | _, .bound .. => none
  | a, b =>
    match a.number?, b.number? with
    | some m, some n => (op.onlyEqual? (m.equals n)).or ((m.compare? n).bind (·.elim (some (.truth false)) ordered))
    | _, _ => op.onlyEqual? (a.same b)

def bySpecial (missing : Run σ Obj) : Run σ Obj := do
  (← special? o name).elim missing (callSpecial · o args)

def trySpecial : Run σ Obj := bySpecial name o args (return .notImplemented)

def firstResult : List (Run σ Obj) → Run σ Obj
  | [] => return .notImplemented
  | action :: rest => do
    match ← action with
    | .notImplemented => firstResult rest
    | result => return result

def compareObjs : Run σ Obj := do
  if let some result := comparePlain? op a b then return result
  let (method, reflected) := op.methods
  let (s, t) := (← typeOf a, ← typeOf b)
  let derived ← if s = t then pure false else derives t s
  let (left, right) : Run σ Obj × Run σ Obj := (trySpecial method a [b], trySpecial reflected b [a])
  match ← firstResult (if derived then [right, left] else [left, right]) with
  | .notImplemented => (op.onlyEqual? (a.same b)).getDM do
    typeError ["'", op.mark, "' not supported between instances of '", ← typeName a, "' and '", ← typeName b, "'"]
  | result => return result

def compareVia : Run σ Obj := do
  if let some result := comparePlain? op a b then return result
  call (.native .function "operator" op.methods.1.toString) [a, b]

def equalVia : Run σ Bool := do
  if a.same b then return true else truthOf (← compareVia .eq a b)

def isMember (items : List Obj) : Run σ Bool := items.anyM (equalVia · o)

def compareItems (op : CompareOp) : List Obj → List Obj → Run σ Obj
  | a :: s, b :: t => do
    if ← equalVia a b then compareItems op s t else (op.onlyEqual? false).getDM (compareVia op a b)
  | s, t => return .truth (op.holds (compare s.length t.length))

end Counterpart.Script
