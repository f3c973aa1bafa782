import Counterpart.Script.Native.Row

/-!
The built-in operations of dictionaries, of what shows their keys, values and entries, and of sets.
-/
namespace Counterpart.Script

variable {σ α : Type} (cls : String) (label : Text) (o key self : Obj)

def noKey : Run σ α := do throw (← newError "KeyError" [key])

def entriesFrom : Run σ Entries := do
  match ← payloadOf o with
  | .dict _ | .attributes _ | .view _ => entriesOf o
  | _ =>
    match ← getAttr? o "keys" with
    | some keys => (← itemsOf (← call keys [])).mapM fun key => do return (key, ← getItem o key)
    | none =>
      (← itemsOf o).zipIdx.mapM fun (item, place) => do
        let pair ← attempt (itemsOf item) ["TypeError"] fun _ =>
          typeError ["cannot convert dictionary update sequence element #", Text.ofNat place, " to a sequence"]
        match pair with
        | [key, value] => return (key, value)
        | pair =>
          raise "ValueError" ["dictionary update sequence element #", Text.ofNat place, " has length ",
            Text.ofNat pair.length, "; 2 is required"]

def updateDict (args : List Obj) (named : Attrs) : Run σ Unit := do
  checkCount label 0 1 args
  let new ← args.head?.elim (return []) entriesFrom
  if let .ref a := self then setEntries a (← putEntries (← entriesOf self) (new ++ attrEntries named))

def entriesText (entries : Entries) : Run σ Text := do
  let shown ← entries.mapM fun (k, v) => do return Text.concat [← reprVia k, ": ", ← reprVia v]
  return Text.concat ["\x7b", Text.join ", " shown, "\x7d"]

def sameEntries (these those : Entries) : Run σ Bool := do
  if these.length ≠ those.length then return false
  these.allM fun (k, v) => do (← entry? k those).elim (return false) (equalVia v)

def dictItem (key : Obj) : Run σ Obj := do
  (← dictGet? self key).getDM (bySpecial "__missing__" self [key] (noKey key))

def isDict : Run σ Bool := isA o "dict"

def newDictView : Run σ Obj := newObject cls (.value o)

def dictStream : Run σ Obj := do newStream cls [o, .int 0, .int (← entriesOf o).length]

def dictGetOr (given : List Obj) : Run σ Obj := do
  return (← dictGet? self (given.headD .none)).getD (given.getD 1 .none)

/-- What dictionaries and what shows them have in common. -/
def entryNatives : Natives σ :=
  [("__len__", operator0 fun self => do return .int (← entriesOf self).length),
   ("__iter__", operator0 (dictStream "dict_keyiterator")),
   ("keys", nullary (label ++ ".keys") (newDictView "dict_keys")),
   ("values", nullary (label ++ ".values") (newDictView "dict_values")),
   ("items", nullary (label ++ ".items") (newDictView "dict_items")),
   ("copy", nullary (label ++ ".copy") fun self => do newDict (← entriesOf self))]

def dictNatives : Natives σ :=
  let change (self : Obj) (entries : Entries) : Run σ Unit := do
    if let .ref a := self then setEntries a entries
  let compare (same : Bool) : Native σ := operator1 fun self o => do
    if ← isDict o then return .truth ((← sameEntries (← entriesOf self) (← entriesOf o)) == same)
    return .notImplemented
  entryNatives "dict" ++
  [("__new__", newBare (.dict [])),
   ("__init__", fun args named => quietly do updateDict "dict" (args.headD .none) (args.drop 1) named),
   ("update", fun args named => quietly do updateDict "update" (args.headD .none) (args.drop 1) named),
   ("__repr__", operator0 fun self => shownOnce self "\x7b...\x7d" do entriesText (← entriesOf self)),
   ("__eq__", compare true), ("__ne__", compare false),
   ("__contains__", unary "dict.__contains__" fun self key => do return .truth (← dictGet? self key).isSome),
   ("__getitem__", unary "dict.__getitem__" dictItem),
   ("__setitem__", operator2 fun self key value => quietly do dictSet self key value),
   ("__delitem__", operator1 fun self key => do
      let (found?, rest) ← takeEntry key (← entriesOf self)
      if found?.isNone then noKey key
      change self rest
      return .none),
   ("__or__", operator1 fun self o => do
      if (← isDict self) && (← isDict o) then newDict (← putEntries (← entriesOf self) (← entriesOf o))
      else return .notImplemented),
   ("get", orderedMethod "dict." "get" 1 2 dictGetOr),
   ("setdefault", orderedMethod "dict." "setdefault" 1 2 fun self given => do
      let (key, other) := (given.headD .none, given.getD 1 .none)
      (← dictGet? self key).getDM do
        dictSet self key other
        return other),
   ("pop", orderedMethod "dict." "pop" 1 2 fun self given => do
      let key := given.headD .none
      let (found?, rest) ← takeEntry key (← entriesOf self)
      match found?, given[1]? with
      | some v, _ =>
        change self rest
        return v
      | none, some other => return other
      | none, none => noKey key),
   ("__reversed__", nullary "dict.__reversed__" fun self => do dictStream "dict_reversekeyiterator" self)]

def mappingText : Run σ Text := do
  let .value shown ← payloadOf o | entriesText (← entriesOf o)
  reprVia shown

def mappingNatives : Natives σ :=
  entryNatives "mappingproxy" ++
  [("__new__", fun args _ => do
      let [o] := args.drop 1 | typeError ["mappingproxy() missing required argument 'mapping' (pos 1)"]
      if ← isDict o then newObject "mappingproxy" (.value o)
      else typeError ["mappingproxy() argument must be a mapping, not ", ← typeName o]),
   ("__repr__", operator0 fun self => do return .text (Text.concat ["mappingproxy(", ← mappingText self, ")"])),
   ("__str__", operator0 fun self => .text <$> mappingText self),
   ("__contains__", operator1 fun self key => do return .truth (← dictGet? self key).isSome),
   ("__getitem__", operator1 fun self key => do (← dictGet? self key).getDM do noKey key),
   ("get", fun args _ => ordered [] "get" 1 2 (dictGetOr (args.headD .none)) (args.drop 1) [])]

/-! ## Views of dictionaries -/

/-- A view of the entries of a dictionary: what it shows of each, and how it goes through them. -/
structure DictView where
  label : String
  part : Obj × Obj → Obj
  forward : String
  backward : String

namespace DictView

def keys : DictView := ⟨"dict_keys", (·.1), "dict_keyiterator", "dict_reversekeyiterator"⟩

def values : DictView := ⟨"dict_values", (·.2), "dict_valueiterator", "dict_reversevalueiterator"⟩

def items : DictView := ⟨"dict_items", fun (k, v) => .tuple [k, v], "dict_itemiterator", "dict_reverseitemiterator"⟩

end DictView

def DictView.shown (v : DictView) (self : Obj) : Run σ (List Obj) := do
  return (← entriesOf (← plainValue self)).map v.part

def DictView.commonNatives (v : DictView) : Natives σ :=
  let label := v.label
  [("__repr__", operator0 fun self => shownOnce self "..." do
      return Text.concat [label, "([", Text.join ", " (← (← v.shown self).mapM reprVia), "])"]),
   ("__len__", operator0 fun self => do return .int (← v.shown self).length),
   ("__iter__", operator0 fun self => do dictStream v.forward (← plainValue self)),
   ("__reversed__", nullary (label ++ ".__reversed__") fun self => do dictStream v.backward (← plainValue self))]

/-! ## Sets -/

def withoutItems (places : Places) (o : Obj) : Run σ Places := do
  return (← (← itemsOf o).foldlM (fun places item => do return (← removeMember places item).2) places).tidied

def placesFrom : Run σ Places := mergeFrom Places.empty o

def frozenSetNatives : Natives σ :=
  [("__repr__", operator0 fun self => do
      let name ← typeName self
      shownOnce self (name ++ "(...)") do
        let members ← (membersOf (← placesOf self)).mapM reprVia
        let row := Text.concat ["\x7b", Text.join ", " members, "\x7d"]
        if members.isEmpty then return name ++ "()"
        if name = "set" then return row
        return Text.concat [name, "(", row, ")"]),
   ("__len__", operator0 fun self => do return .int (← placesOf self).used),
   ("__iter__", operator0 fun self => do newStream "set_iterator" [self, .int 0, .int (← placesOf self).used]),
   ("__contains__", unary "set.__contains__" fun self o => do return .truth (← hasMember (← placesOf self) o))]

def setNatives : Natives σ :=
  let change (self : Obj) (places : Places) : Run σ Unit := do
    if let .ref a := self then setPayload a (.set places)
  let each (label : Text) (f : Places → Obj → Run σ Places) : Native σ := fun args named => do
    noNamed label named
    let self := args.headD .none
    for o in args.drop 1 do change self (← f (← placesOf self) o)
    return .none
  frozenSetNatives ++
  [("__new__", newBare (.set Places.empty)),
   ("__init__", orderedMethod [] "set" 0 1 fun self given => do
      change self Places.empty
      if let some o := given.head? then change self (← placesFrom o)
      return .none),
   ("update", each "set.update" mergeFrom), ("difference_update", each "set.difference_update" withoutItems),
   ("add", unary "set.add" fun self o => quietly do change self (← addMember (← placesOf self) o)),
   ("discard", unary "set.discard" fun self o => quietly do change self (← removeMember (← placesOf self) o).2),
   ("pop", nullary "set.pop" fun self => do
      let o :: _ := membersOf (← placesOf self) | noKey (.text "pop from an empty set")
      change self (← removeMember (← placesOf self) o).2
      return o)]

/-! ## Views as sets -/

def DictView.setNatives (v : DictView) : Natives σ :=
  v.commonNatives ++
  [("__contains__", operator1 fun self o => do
      let dict ← plainValue self
      if v.label = "dict_keys" then .truth <$> containedIn o dict
      else
        let .tuple [key, value] ← plainValue o | return .truth false
        return .truth (← (← dictGet? dict key).elim (return false) (equalVia · value)))]

end Counterpart.Script
