import Counterpart.Script.Native.Function

/-!
The values of expressions, and what targets are bound to.
-/
namespace Counterpart.Script

variable {σ α : Type} (env : Env) (module frame : Address) (f : Obj) (name : Text) (e element : Expr)
variable (value? : Option Obj) (clauses : List Clause)

def eval : Run σ Obj := fun ops => ops.eval env e

/-! ## Names -/

def Env.ownName : Text := privateName env.cls? name

def undefined : Run σ α := do
  let e ← newError "NameError" [.text ("name '" ++ name ++ "' is not defined")]
  if let .ref a := e then putAttr a ".name" (.text name)
  throw e

def standardName? : Run σ (Option Obj) := do
  let some space ← ownAttr? (.ref module) "__builtins__" | moduleObj? "builtins" name
  match space, ← payloadOf space with
  | _, .attributes a => ownAttr? (.ref a) name
  | .ref a, .module => ownAttr? (.ref a) name
  | _, _ => dictGet? space (.text name)

def globalName : Run σ Obj := do
  (← ownAttr? (.ref module) name).getDM do (← standardName? module name).getDM (undefined name)

def ownNames : Run σ (List Text) := do
  let .frame names := (← cellAt frame).payload | return []
  return names

def enclosing? (name : Text) : List Address → Run σ (Option Address)
  | [] => return none
  | frame :: rest => do if (← ownNames frame).contains name then return some frame else enclosing? name rest

def outerName : Run σ Obj := do
  let some frame ← enclosing? name env.closure | globalName env.module name
  (← ownAttr? (.ref frame) name).getDM do
    raise "NameError" ["cannot access free variable '", name,
      "' where it is not associated with a value in enclosing scope"]

def spaceItem? (space : Obj) (name : Text) : Run σ (Option Obj) := do
  match ← special? space "__getitem__" with
  | some (.native ..) => dictGet? space (.text name)
  | _ => attempt (do return some (← getItem space (.text name))) ["KeyError"] fun _ => return none

def unbound : Run σ α :=
  raise "UnboundLocalError" ["cannot access local variable '", name,
    "' where it is not associated with a value"]

def nameValue : Run σ Obj := do
  let name := env.ownName name
  if env.names.global.any fun n => env.ownName n = name then globalName env.module name
  else
    match env.standing with
    | .module => globalName env.module name
    | .cls space => (← spaceItem? space name).getDM do outerName env name
    | .function frame =>
      if (← ownNames frame).contains name then (← ownAttr? (.ref frame) name).getDM do unbound name
      else outerName env name

def changeOuter : Run σ Unit := do
  changeOwn ((← enclosing? name env.closure).getD env.module) name (undefined name) value?

def changeGlobal : Run σ Unit :=
  changeOuter { env with closure := [] } name value?

def changeName (env : Env) (name : Text) (value? : Option Obj) : Run σ Unit := do
  let name := env.ownName name
  if env.names.global.any fun n => env.ownName n = name then changeGlobal env name value?
  else if env.names.nonlocal.any fun n => env.ownName n = name then changeOuter env name value?
  else
    match env.standing, value? with
    | .module, _ => changeGlobal env name value?
    | .cls space, some v => setItem space (.text name) v
    | .cls space, none => attempt (deleteItem space (.text name)) ["KeyError"] fun _ => undefined name
    | .function frame, some v =>
      if (← ownNames frame).contains name then putAttr frame name v else changeOuter env name value?
    | .function frame, none => changeOwn frame name (unbound name) none

/-! ## Targets -/

def splitItems (o : Obj) (before : Nat) (after? : Option Nat) : Run σ (List Obj) := do
  let items ← match ← special? o "__iter__", ← special? o "__getitem__" with
    | none, none => typeError ["cannot unpack non-iterable ", ← typeName o, " object"]
    | _, _ => if after?.isSome then itemsOf o else do drain (← iteratorOf o) (before + 1) []
  let n := items.length
  let least := before + after?.getD 0
  if n < least then
    raise "ValueError" ["not enough values to unpack (expected ", if after?.isSome then "at least " else [],
      Text.ofNat least, ", got ", Text.ofNat n, ")"]
  match after? with
  | none =>
    if before < n then raise "ValueError" ["too many values to unpack (expected ", Text.ofNat before, ")"]
    return items
  | some after => return items.take before ++ [← newList ((items.drop before).take (n - least))] ++ items.drop (n - after)

def isStarred : Expr → Bool
  | .starred _ => true
  | _ => false

def bindTarget (env : Env) : Nat → Expr → Obj → Run σ Unit
  | 0, _, _ => fail "RecursionError" "maximum recursion depth exceeded"
  | fuel + 1, target, value => do
    match target with
    | .name n => changeName env n (some value)
    | .dotted owner n => setAttr (← eval env owner) (env.ownName n) value
    | .item owner index => setItem (← eval env owner) (← eval env index) value
    | .starred inner => bindTarget env fuel inner value
    | .tuple targets | .list targets =>
      let before := (targets.takeWhile fun t => !isStarred t).length
      let after? := if before < targets.length then some (targets.length - before - 1) else none
      for (t, v) in targets.zip (← splitItems value before after?) do bindTarget env fuel t v
    | _ => fail "SyntaxError" []

def targetDepth : Nat := 1000

def deleteTarget (env : Env) : Nat → Expr → Run σ Unit
  | 0, _ => return ()
  | fuel + 1, target => do
    match target with
    | .name n => changeName env n none
    | .dotted owner n => deleteAttr (← eval env owner) (env.ownName n)
    | .item owner index => deleteItem (← eval env owner) (← eval env index)
    | .tuple targets | .list targets => for t in targets do deleteTarget env fuel t
    | _ => return ()

/-! ## Functions -/

def Env.outerFrames : List Address :=
  match env.standing with
  | .function outer => outer :: env.closure
  | _ => env.closure

def Env.closureInside : List Address :=
  match env.standing with
  | .cls _ => env.cell?.toList ++ env.closure
  | _ => env.outerFrames

def slotsFor (params : List Param) : Run σ (List Slot) :=
  params.mapM fun p => do return ⟨p.kind, env.ownName p.name, ← p.default?.mapM (eval env)⟩

def makeFunction (slots : List Slot) (body : Body) : Run σ Obj :=
  newObject "function" (.function
    { name, qualname := env.qualifier ++ name, slots, body, closure := env.closureInside, module := env.module
      cls? := env.cls? })

def newFrame (names : List Text) (locals : Attrs) : Run σ Address :=
  allocate { cls := known "frame", attrs := locals, payload := .frame names }

/-! ## Comprehensions -/

def throughClauses (env : Env) (action : Run σ Unit) : List Clause → Option Obj → Run σ Unit
  | [], _ => action
  | clause :: rest, source? => do
    let it ← iteratorOf (← source?.getDM do eval env clause.source)
    repeatUntil do
      let some item ← nextOf? it | return some ()
      bindTarget env targetDepth clause.target item
      if ← clause.conditions.allM fun c => do truthOf (← eval env c) then throughClauses env action rest none
      return none

def clauseNames : List Text :=
  (clauses.flatMap fun c => Expr.targetNames treeDepth c.target).map env.ownName

def Env.inside : Env :=
  { env with standing := .function frame, names := {}, closure := env.outerFrames }

def collect (kind : CollectKind) (element : Expr) (value? : Option Expr) (clauses : List Clause) :
    Run σ Obj := do
  let source? ← clauses.head?.mapM fun clause => eval env clause.source
  let inner := env.inside (← newFrame (clauseNames env clauses) [])
  let result ← match kind with
    | .set => newSet Places.empty
    | .dict => newDict []
    | _ => newList []
  -- the items of a list are kept the last first until all are there
  let action : Run σ Unit := do
    let o ← eval inner element
    match kind, value?, result with
    | .dict, some v, result => dictSet result o (← eval inner v)
    | .set, _, .ref a => setPayload a (.set (← addMember (← placesOf result) o))
    | _, _, result => setItems result (o :: (← heldItems result))
  throughClauses inner action clauses source?
  if kind = .list then setItems result (← heldItems result).reverse
  return result

def Clause.nested (element : Expr) : List Clause → List Stmt
  | [] => [.expr (.yield (some element))]
  | c :: rest =>
    let inner := Clause.nested element rest
    [.each c.isAsync c.target c.source (c.conditions.foldr (fun e body => [.choose e body []]) inner) []]

def awaitedIteratorOf (o : Obj) : Run σ Obj := do
  match ← special? o "__aiter__" with
  | none => typeError ["'async for' requires an object with __aiter__ method, got ", ← typeName o]
  | some f =>
    let it ← callSpecial f o []
    if (← special? it "__anext__").isNone then
      typeError ["'async for' received an object from __aiter__ that does not implement __anext__: ", ← typeName it]
    return it

/-- A comprehension that gives its items one by one. The object that it goes through is asked for its items at
once. -/
def collectLater : Run σ Obj := do
  let first :: rest := clauses | return .none
  let source ← eval env first.source
  let it ← if first.isAsync then awaitedIteratorOf source else iteratorOf source
  let inner := env.inside (← newFrame (".0" :: clauseNames env clauses) [])
  let body := first.conditions.foldr (fun e body => [Stmt.choose e body []]) (Clause.nested element rest)
  let isAsync := clauses.any Clause.isAsync
  let task : Task := if first.isAsync then .eachAwaited first.target it body [] else .each first.target it body []
  newObject (if isAsync then "async_generator" else "generator") (.generator { env := inner, tasks := [task] })
    [("__name__", .text "<genexpr>"), ("__qualname__", .text (env.qualifier ++ "<genexpr>"))]

/-! ## Calls -/

def calleeText : Run σ Text := do
  let some (.text q) ← getAttr? f "__qualname__" | strOf f
  let some (.text m) ← getAttr? f "__module__" | return q ++ "()"
  return if m = "builtins" then q ++ "()" else Text.concat [m, ".", q, "()"]

def argumentsOf (args : List Argument) : Run σ (List Obj × Attrs) :=
  args.foldlM (fun (given, named) arg => do
    let addNamed (named : Attrs) (name : Text) (v : Obj) : Run σ Attrs := do
      if (nameIn? name named).isSome then
        typeError [← calleeText f, " got multiple values for keyword argument ", Quoted.text name]
      return named ++ [(name, v)]
    match arg with
    | .positional e => return (given ++ [← eval env e], named)
    | .named name e => return (given, ← addNamed named name (← eval env e))
    | .spread e =>
      let o ← eval env e
      let items ← itemsOr o do typeError [← calleeText f, " argument after * must be an iterable, not ", ← typeName o]
      return (given ++ items, named)
    | .spreadNamed e =>
      let o ← eval env e
      if (← getAttr? o "keys").isNone then
        typeError [← calleeText f, " argument after ** must be a mapping, not ", ← typeName o]
      let mut named := named
      for key in ← itemsOf (← callMethod o "keys" []) do
        let some name ← textOf? key | typeError ["keywords must be strings"]
        named ← addNamed named name (← getItem o key)
      return (given, named)) (([], []) : List Obj × Attrs)

def superHere : Run σ Obj := do
  let .function frame := env.standing | fail "RuntimeError" "super(): no arguments"
  match (← attrsOf frame).head?, (← ownNames frame).head? with
  | some (_, first), some _ =>
    let some cell ← enclosing? "__class__" env.closure | fail "RuntimeError" "super(): __class__ cell not found"
    let some cls ← ownAttr? (.ref cell) "__class__" | fail "RuntimeError" "super(): empty __class__ cell"
    call (.ref (known "super")) [cls, first]
  | _, _ => fail "RuntimeError" "super(): no arguments"

def localsHere : Run σ Obj := do
  match env.standing with
  | .module => attributesOf (.ref env.module)
  | .cls space => return space
  | .function frame => do newDict (attrEntries (← shownAttrs frame))

/-- Calls a function that depends on where it is called. A text is run with the names of that place unless others
are given. -/
def callHere? (env : Env) (f : Obj) (args : List Obj) (named : Attrs) : Run σ (Option Obj) := do
  match f, args, named with
  | .native .function "builtins" "eval", source :: given, [] | .native .function "builtins" "exec", source :: given, [] =>
    match given with
    | [] | [.none] | [.none, .none] =>
      return some (← call f [source, ← attributesOf (.ref env.module), ← localsHere env])
    | [.none, locals] => return some (← call f [source, ← attributesOf (.ref env.module), locals])
    | _ => return none
  | .ref a, [], [] => if a = known "super" then some <$> superHere env else return none
  | .native .function "builtins" name, [], [] =>
    if name = "locals" || name = "vars" then some <$> localsHere env
    else if name = "globals" then some <$> attributesOf (.ref env.module)
    else if name = "dir" then
      let names ← itemsOf (← localsHere env)
      return some (← newList (← sortByKeys (names.map fun n => (n, n))))
    else return none
  | _, _, _ => return none

/-! ## Expressions -/

def constantObj : Literal → Obj
  | .null => .none
  | .truth b => .truth b
  | .integer i => .int i
  | .real d => .real d
  | .complex re im => .complex re im
  | .text t => .text t
  | .bytes b => .bytes b
  | .ellipsis => .ellipsis
  | _ => .none

def displayItems (env : Env) : List Expr → Run σ (List Obj)
  | [] => return []
  | .starred inner :: rest => do
    let o ← eval env inner
    let items ← itemsOr o do typeError ["Value after * must be an iterable, not ", ← typeName o]
    return items ++ (← displayItems env rest)
  | e :: rest => do return (← eval env e) :: (← displayItems env rest)

def isConstant : Expr → Bool
  | .constant _ => true
  | .unary .minus (.constant _) => true
  | _ => false

def displaySet (items : List Expr) : Run σ Obj := do
  let members ← displayItems env items
  if 3 ≤ items.length && items.all isConstant then
    let again ← addMembers Places.empty (membersOf (← addMembers Places.empty members))
    newSet (← mergeMembers Places.empty again)
  else newSet (← addMembers Places.empty members)

def displayDict (entries : List (Option Expr × Expr)) : Run σ Obj := do
  let filled ← entries.foldlM (fun filled (key?, value) => do
    match key? with
    | some key => putEntry (← eval env key) (← eval env value) filled
    | none =>
      let o ← eval env value
      if (← getAttr? o "keys").isNone then typeError ["'", ← typeName o, "' object is not a mapping"]
      putEntries filled (← entriesFrom o)) ([] : Entries)
  newDict filled

def compareChain (env : Env) : Obj → List (CompareOp × Expr) → Run σ Obj
  | _, [] => return .truth true
  | left, [(op, e)] => do compareBy op left (← eval env e)
  | left, (op, e) :: rest => do
    let right ← eval env e
    let result ← compareBy op left right
    if ← truthOf result then compareChain env right rest else return result

def firstDecisive (env : Env) (wanted : Bool) : List Expr → Run σ Obj
  | [] => return .none
  | [e] => eval env e
  | e :: rest => do
    let o ← eval env e
    if (← truthOf o) == wanted then return o else firstDecisive env wanted rest

def fieldText (value : Expr) (conversion? : Option CodePoint) (spec? : Option Expr) : Run σ Text := do
  let o ← eval env value
  let o ← match conversion? with
    | none => pure o
    | some c =>
      let t ← if c = 's' then strOf o else reprVia o
      pure (.text (if c = 'a' then asciiText t else t))
  strOf (← call (builtin "format") [o, ← spec?.elim (return .text []) (eval env)])

def evalExpr : Run σ Obj := do
  match e with
  | .name n => nameValue env n
  | .constant l => return constantObj l
  | .joined parts =>
    let texts ← parts.mapM fun part => do
      match part with
      | .field value conversion? spec? => fieldText env value conversion? spec?
      | part => strOf (← eval env part)
    return .text (Text.concat texts)
  | .field value conversion? spec? => .text <$> fieldText env value conversion? spec?
  | .tuple items => .tuple <$> displayItems env items
  | .list items => newList (← displayItems env items)
  | .set items => displaySet env items
  | .dict keys values => displayDict env (keys.zip values)
  | .all items => firstDecisive env false items
  | .any items => firstDecisive env true items
  | .unary op operand => operateUnary op (← eval env operand)
  | .binary op left right =>
    let a ← eval env left
    operate op a (← eval env right)
  | .compare first ops others => do compareChain env (← eval env first) (ops.zip others)
  | .call callee args =>
    let f ← eval env callee
    let (given, named) ← argumentsOf env f args
    (← callHere? env f given named).getDM do call f given named
  | .dotted owner name => do getAttr (← eval env owner) (env.ownName name)
  | .item owner index =>
    let o ← eval env owner
    getItem o (← eval env index)
  | .slice lower? upper? step? =>
    let bound (e? : Option Expr) : Run σ Obj := e?.elim (return .none) (eval env)
    newObject "slice" (.slice (← bound lower?) (← bound upper?) (← bound step?))
  | .starred inner => eval env inner
  | .choice condition yes no =>
    if ← truthOf (← eval env condition) then eval env yes else eval env no
  | .lambda params body => makeFunction env "<lambda>" (← slotsFor env params) (.expr body)
  | .bind name value =>
    let o ← eval env value
    changeName env name (some o)
    return o
  | .collect .generator element _ clauses => collectLater env element clauses
  | .collect kind element value? clauses => collect env kind element value? clauses
  -- these stand in functions that pause, where others take care of them
  | .await _ | .yield _ | .yieldEach _ => fail "RuntimeError" "cannot pause here"

end Counterpart.Script
