import Counterpart.Script.Operation

/-!
Dictionaries and sets. A dictionary keeps its entries in the order in which their keys first came. A set keeps
its members in a table: each goes to the first free place after the one that its hash gives, and its members
are gone through in the order of their places.
-/
namespace Counterpart.Script

variable {σ : Type} (a : Address) (o key : Obj) (entries : Entries) (hash : Int) (value : Obj)

def matchesKey (other : Obj) : Run σ Bool := do
  if let some (.truth b) := comparePlain? .eq key other then return b
  if other.same key then return true
  if (← hashVia other) ≠ hash then return false
  truthOf (← compareVia .eq other key)

/-! ## Dictionaries -/

def entryPlace (key : Obj) (hash : Int) : Entries → Nat → Run σ (Option Nat)
  | [], _ => return none
  | (k, _) :: rest, place => do
    if ← matchesKey key hash k then return some place else entryPlace key hash rest (place + 1)

def keyPlace : Run σ (Option Nat) := do entryPlace key (← hashVia key) entries 0

def entry? : Run σ (Option Obj) := do
  return (← keyPlace key entries).bind fun place => (entries[place]?).map (·.2)

def putEntry (entries : Entries) : Run σ Entries := do
  let some place ← keyPlace key entries | return entries ++ [(key, value)]
  return entries.modify place fun (k, _) => (k, value)

def takeEntry : Run σ (Option Obj × Entries) := do
  let some place ← keyPlace key entries | return (none, entries)
  return ((entries[place]?).map (·.2), entries.eraseIdx place)

def putEntries (new : Entries) : Run σ Entries := new.foldlM (fun entries (k, v) => putEntry k v entries) entries

def textEntries : Attrs :=
  entries.filterMap fun (k, v) =>
    match k with
    | .text name => some (name, v)
    | _ => none

def setShown (attrs : Attrs) : Run σ Unit := do
  let c ← cellAt a
  setCell a { c with attrs := (c.attrs.filter fun (name, _) => isHiddenName name) ++ attrs }

def setEntries : Run σ Unit := do
  let .attributes owner := (← cellAt a).payload | setPayload a (.dict entries)
  setShown owner (textEntries entries)

def dictGet? : Run σ (Option Obj) := do entry? key (← entriesOf o)

def dictSet : Run σ Unit := do
  if let .ref a := o then setEntries a (← putEntry key value (← entriesOf o))

/-! ## Sets -/

abbrev Places := Array (Option (Int × Obj))

namespace Places

def empty : Places := Array.replicate 8 none

def used (places : Places) : Nat := (memberEntries places).length

def filled (places : Places) : Nat := (places.toList.filterMap id).length

def start (places : Places) (hash : Int) : Nat × Nat :=
  let h := (hash % (2 ^ 64 : Int)).toNat
  (h % places.size, h)

def run (places : Places) (i : Nat) : Nat := if i + 9 < places.size then 10 else 1

def next (places : Places) (i rest : Nat) : Nat × Nat :=
  let rest := rest / 32
  ((i * 5 + 1 + rest) % places.size, rest)

def freePlace (places : Places) : Nat → Nat × Nat → Nat
  | 0, (i, _) => i
  | fuel + 1, (i, rest) =>
    (((List.range (places.run i)).map (i + ·)).find? fun j => (places[j]?.join).isNone).getD
      (freePlace places fuel (places.next i rest))

def limit (places : Places) : Nat := 2 * places.size + 64

def insertNew (places : Places) (entry : Int × Obj) : Places :=
  places.setIfInBounds (places.freePlace places.limit (places.start entry.1)) (some entry)

def sizeFor (least : Nat) : Nat → Nat → Nat
  | 0, size => size
  | fuel + 1, size => if size ≤ least then sizeFor least fuel (size * 2) else size

def resize (places : Places) (least : Nat) : Places :=
  (memberEntries places).foldl insertNew (Array.replicate (sizeFor least 64 8) none)

def room (places : Places) : Nat := if 50000 < places.used then places.used * 2 else places.used * 4

def grown (places : Places) : Places :=
  if places.filled * 5 < (places.size - 1) * 3 then places else places.resize places.room

def widened (places : Places) (more : Nat) : Places :=
  if (places.size - 1) * 3 ≤ (places.filled + more) * 5 then places.resize ((places.used + more) * 2) else places

def tidied (places : Places) : Places :=
  if places.filled - places.used ≤ (places.size - 1) / 4 then places else places.resize places.room

end Places

def placeIn (key : Obj) (hash : Int) (places : Places) : List Nat → Run σ (Option (Nat × Bool))
  | [] => return none
  | i :: rest => do
    let some (h, other) := places[i]?.join | return some (i, false)
    if h = hash then
      if ← matchesKey key hash other then return some (i, true)
    placeIn key hash places rest

def memberPlace (key : Obj) (hash : Int) (places : Places) : Nat → Nat × Nat → Run σ (Nat × Bool)
  | 0, (i, _) => return (i, false)
  | fuel + 1, (i, rest) => do
    (← placeIn key hash places ((List.range (places.run i)).map (i + ·))).getDM
      (memberPlace key hash places fuel (places.next i rest))

def placeOf (places : Places) : Run σ (Int × Nat × Bool) := do
  let hash ← hashVia key
  let (place, found) ← memberPlace key hash places places.limit (places.start hash)
  return (hash, place, found)

def addMember (places : Places) (key : Obj) : Run σ Places := do
  let (hash, place, found) ← placeOf key places
  if found then return places else return (Places.grown (places.setIfInBounds place (some (hash, key))))

def addMembers (places : Places) (keys : List Obj) : Run σ Places := keys.foldlM addMember places

def removeMember (places : Places) (key : Obj) : Run σ (Bool × Places) := do
  let (_, place, found) ← placeOf key places
  if found then return (true, places.setIfInBounds place (some (takenHash, .none))) else return (false, places)

def hasMember (places : Places) (key : Obj) : Run σ Bool := do return (← placeOf key places).2.2

def mergeMembers (places other : Places) : Run σ Places := do
  if other.used = 0 then return places
  let places := places.widened other.used
  if places.filled = 0 then
    if places.size = other.size && other.filled = other.used then return other
    return (memberEntries other).foldl Places.insertNew places
  else addMembers places (membersOf other)

def placesOf : Run σ Places := do
  let .set places ← payloadOf o | return Places.empty
  return places

def newSet (places : Places) : Run σ Obj := newObject "set" (.set places)

def newFrozenSet (items : List Obj) : Run σ Obj := do newObject "frozenset" (.set (← addMembers Places.empty items))

def mergeFrom (places : Places) (o : Obj) : Run σ Places := do
  match ← payloadOf o with
  | .set other => mergeMembers places other
  | .dict entries =>
    if (← typeOf o) = known "dict" then addMembers (places.widened entries.length) (entries.map (·.1))
    else addMembers places (← itemsOf o)
  | _ => addMembers places (← itemsOf o)

end Counterpart.Script
