import Counterpart.Script.Evaluate

/-!
Whether objects fit patterns. Names are bound only where a whole pattern fits.
-/
namespace Counterpart.Script

variable {σ : Type} (env : Env) (keys : List String) (cls : Address) (o : Obj)

abbrev Bindings := Attrs

def selfClasses : List String :=
  ["bool", "bytearray", "bytes", "dict", "float", "frozenset", "int", "list", "set", "str", "tuple"]

def derivesFromAny (keys : List String) (cls : Address) : Run σ Bool := do
  let order ← orderOf cls
  return keys.any fun key => order.contains (known key)

def isLike (keys : List String) (mark : Text) (o : Obj) : Run σ Bool := do
  if ← derivesFromAny keys (← typeOf o) then return true else return (← special? o mark).isSome

def matchNames (cls : Address) (title : Text) (wanted : Nat) : Run σ (Option (List Obj)) := do
  let names? ← match ← getAttr? (.ref cls) "__match_args__" with
    | some (.tuple names) => pure (some names)
    | some o => typeError [title, ".__match_args__ must be a tuple (got ", ← typeName o, ")"]
    | none => if ← derivesFromAny selfClasses cls then pure none else pure (some [])
  let allowed := (names?.map List.length).getD 1
  if allowed < wanted then
    typeError [title, "() accepts ", Text.ofNat allowed, " positional sub-pattern", ending allowed, " (",
      Text.ofNat wanted, " given)"]
  return names?

/-- The attributes of an object that a pattern for a class asks for: so many by place, and some by name. Nothing if
one is missing. -/
def matchAttributes (o cls : Obj) (wanted : Nat) (names : List Text) : Run σ (Option (List Obj)) := do
  let some (a, info) ← class? cls | typeError ["called match pattern must be a type"]
  if !(← isInstance o cls) then return none
  let placed? ← if wanted = 0 then pure (some []) else matchNames a info.title wanted
  let attributes ← (placed?.getD []).take wanted |>.mapM fun name => do
    match name with
    | .text t => return t
    | o => typeError ["__match_args__ elements must be strings (got ", ← typeName o, ")"]
  let self := if placed?.isNone then [o] else []
  let rec take (seen : List Text) : List Text → Run σ (Option (List Obj))
    | [] => return some []
    | name :: rest => do
      if seen.contains name then
        typeError [info.title, "() got multiple sub-patterns for attribute ", Quoted.text name]
      let some value ← getAttr? o name | return none
      return (← take (name :: seen) rest).map (value :: ·)
  return (← take [] (attributes ++ names)).map (self ++ ·)

def matchKeys (o : Obj) : List Obj → List Obj → Run σ (Option (List Obj))
  | _, [] => return some []
  | seen, key :: rest => do
    if ← isMember key seen then raise "ValueError" ["mapping pattern checks duplicate key (", ← reprVia key, ")"]
    let absent ← newObject "object" .nothing
    let value ← callMethod o "get" [key, absent]
    if value.same absent then return none
    return (← matchKeys o (key :: seen) rest).map (value :: ·)

def fit (env : Env) : Nat → Pattern → Obj → Run σ (Option Bindings)
  | 0, _, _ => fail "RecursionError" "maximum recursion depth exceeded"
  | fuel + 1, p, o => do
    let rec all : List (Pattern × Obj) → Run σ (Option Bindings)
      | [] => return some []
      | (p, o) :: rest => do
        let some found ← fit env fuel p o | return none
        return (← all rest).map (found ++ ·)
    let rec one : List Pattern → Run σ (Option Bindings)
      | [] => return none
      | p :: rest => do
        let some found ← fit env fuel p o | one rest
        return some found
    match p with
    | .value e => do
      if ← truthOf (← compareObjs .eq o (← eval env e)) then return some [] else return none
    | .single l => return if o.same (constantObj l) then some [] else none
    | .any name? | .rest name? => return some (name?.toList.map fun n => (n, o))
    | .named inner n => return (← fit env fuel inner o).map (· ++ [(n, o)])
    | .either options => one options
    | .row items =>
      if !(← isLike ["list", "tuple", "range", "memoryview"] "__abc_sequence__" o) then return none
      let before := (items.takeWhile fun p => !p.isRest).length
      let hasRest := before < items.length
      let least := if hasRest then items.length - 1 else items.length
      let n ← lengthOf o
      if n < least || (!hasRest && n ≠ least) then return none
      let found ← itemsOf o
      if hasRest then
        let rest ← newList ((found.drop before).take (n - least))
        all (items.zip (found.take before ++ rest :: found.drop (before + n - least)))
      else all (items.zip found)
    | .entries keys values rest? =>
      if !(← isLike ["dict", "mappingproxy"] "__abc_mapping__" o) then return none
      if !keys.isEmpty && (← lengthOf o) < keys.length then return none
      let keys ← keys.mapM (eval env)
      let some found ← matchKeys o [] keys | return none
      let bound? ← all (values.zip found)
      match bound?, rest? with
      | some bound, some name =>
        let copy ← call (.ref (known "dict")) [o]
        for key in keys do deleteItem copy key
        return some (bound ++ [(name, copy)])
      | bound?, _ => return bound?
    | .ofClass cls items names values =>
      let some found ← matchAttributes o (← eval env cls) items.length names | return none
      all ((items ++ values).zip found)

def chosenCase (env : Env) (o : Obj) : List Case → Run σ (List Stmt)
  | [] => return []
  | c :: rest => do
    let some found ← fit env targetDepth c.pattern o | chosenCase env o rest
    for (name, value) in found do changeName env name (some value)
    if ← c.guard?.elim (return true) fun e => do truthOf (← eval env e) then return c.body else chosenCase env o rest

end Counterpart.Script
