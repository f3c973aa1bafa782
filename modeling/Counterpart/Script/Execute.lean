import Counterpart.Script.Fit
import Counterpart.Script.Package
import Counterpart.Script.Written

/-!
What statements do.
-/
namespace Counterpart.Script

variable {σ α : Type} (n : Text) (o : Obj) (r : Remainder) (env : Env) (e : Obj) (path : List Text) (name : Text)
variable (target : Expr) (params : List Param) (whole : Obj) (returns? : Option Expr)

def exec (env : Env) (s : Stmt) : Run σ Flow := fun ops => ops.exec env s

def execBlock (env : Env) : List Stmt → Run σ Flow
  | [] => return .next
  | s :: rest => do
    match ← exec env s with
    | .next => execBlock env rest
    | flow => return flow

/-! ## Calls inside calls -/

def callLimit : Nat := 995

def deeper (module : Address) (action : Run σ α) : Run σ α := do
  let (depth, callers) := ((← get).depth, (← get).callers)
  if callLimit ≤ depth then fail "RecursionError" "maximum recursion depth exceeded"
  modify fun w => { w with depth := depth + 1, callers := module :: callers }
  ensuring (modify fun w => { w with depth, callers }) action

/-! ## Functions -/

def Expr.yields : Nat → Expr → Bool
  | 0, _ => false
  | fuel + 1, e =>
    match e with
    | .yield _ | .yieldEach _ | .await _ => true
    | .collect .generator _ _ clauses => (clauses.take 1).any fun c => yields fuel c.source
    | .collect _ _ _ clauses => clauses.any Clause.isAsync || (e.parts ++ e.ownParts).any (yields fuel)
    | e => e.parts.any (yields fuel)

def Expr.givesItems : Nat → Expr → Bool
  | 0, _ => false
  | fuel + 1, e =>
    match e with
    | .yield _ | .yieldEach _ => true
    | e => e.parts.any (givesItems fuel)

def bodyYields (body : List Stmt) : Bool :=
  (flattened treeDepth body).any fun s => s.exprs.any (Expr.givesItems treeDepth)

def Expr.uses (n : Text) : Nat → Expr → Bool
  | 0, _ => false
  | fuel + 1, e =>
    match e with
    | .name m => m = n
    | .lambda params body => (params.filterMap Param.default?).any (uses n fuel) || uses n fuel body
    | e => (e.parts ++ e.ownParts).any (uses n fuel)

def bodyUses (n : Text) : Nat → Bool → List Stmt → Bool
  | 0, _, _ => false
  | fuel + 1, isInside, body =>
    (flattened treeDepth body).any fun s =>
      let inner (e : Expr) : Bool :=
        match e with
        | .lambda _ body => Expr.uses n treeDepth body
        | e => e.ownParts.any (Expr.uses n treeDepth)
      (if isInside then s.exprs.any (Expr.uses n treeDepth) else s.exprs.any inner) ||
      match s with
      | .function _ _ _ body _ _ => bodyUses n fuel true body
      | _ => false

def withoutDoc : List Stmt → Option Text × List Stmt
  | .expr (.constant (.text t)) :: rest => (some t, rest)
  | body => (none, body)

def writtenHints : Entries :=
  let written (e : Expr) : Obj := .text (Expr.written treeDepth .test e)
  let of (kinds : List ParamKind) : Entries :=
    (params.filter fun p => kinds.contains p.kind).filterMap fun p =>
      p.hint?.map fun e => (.text (env.ownName p.name), written e)
  of [.positionalOnly] ++ of [.ordinary] ++ of [.rest] ++ of [.keywordOnly] ++ of [.restNamed] ++
    returns?.toList.map fun e => (.text "return", written e)

def defineFunction (body : List Stmt)
    (decorators : List Expr) (isAsync : Bool) : Run σ Unit := do
  let wraps ← decorators.mapM (eval env)
  let f ← makeFunction env name (← slotsFor env params) (.block body (namesOf body) (bodyYields body) isAsync)
  if let .ref a := f then
    let hints := writtenHints env params returns?
    let hints? ← if hints.isEmpty then pure none else some <$> newDict hints
    let doc : Obj := (withoutDoc body).1.elim .none .text
    if let .function g := (← cellAt a).payload then setPayload a (.function { g with hints?, doc })
  changeName env name (some (← wraps.reverse.foldlM (fun f wrap => call wrap [f]) f))

/-! ## Classes -/

def basesFor (given : List Obj) : List Obj → Run σ (List Obj)
  | [] => return []
  | base :: rest => do
    let entries? ← if (← class? base).isSome then pure none else getAttr? base "__mro_entries__"
    let some f := entries? | return base :: (← basesFor given rest)
    let .tuple items ← call f [.tuple given] | typeError ["__mro_entries__ must return a tuple"]
    return items ++ (← basesFor given rest)

def annotates (body : List Stmt) : Bool :=
  (flattened treeDepth body).any (· matches .annotate ..)

def beginBody (body : List Stmt) : Run σ (List Stmt) := do
  if annotates body then
    let found? ← match env.standing with
      | .cls space => spaceItem? space "__annotations__"
      | _ => ownAttr? (.ref env.module) "__annotations__"
    if found?.isNone then changeName env "__annotations__" (some (← newDict []))
  let (doc?, body) := withoutDoc body
  if let some doc := doc? then changeName env "__doc__" (some (.text doc))
  return body

def kindOfClass (named : Attrs) (bases : List Obj) : Run σ Obj := do
  match nameIn? "metaclass" named, bases with
  | some kind, _ =>
    let some (a, _) ← class? kind | return kind
    .ref <$> metaclassFor a bases
  | none, [] => return .ref (known "type")
  | none, base :: _ => return .ref (← metaclassFor (← typeOf base) bases)

def defineClass (args : List Argument) (body : List Stmt) (decorators : List Expr) :
    Run σ Unit := do
  let wraps ← decorators.mapM (eval env)
  let (given, named) ← argumentsOf env (builtin "__build_class__") args
  let bases ← basesFor given given
  let kind ← kindOfClass named bases
  let named := named.filter fun (n, _) => n ≠ "metaclass"
  let space ← (← getAttr? kind "__prepare__").elim (newDict []) (call · [.text name, .tuple bases] named)
  if (← special? space "__getitem__").isNone then
    typeError [(← class? kind).elim "<metaclass>" (·.2.name), ".__prepare__() must return a mapping, not ", ← typeName space]
  let cell ← newFrame ["__class__"] []
  let qualname := env.qualifier ++ name
  let inner : Env :=
    { env with
      standing := .cls space, names := namesOf body, closure := env.outerFrames, cls? := some name
      qualifier := qualname ++ ".", cell? := some cell }
  changeName inner "__module__" (some (← nameValue inner "__name__"))
  changeName inner "__qualname__" (some (.text qualname))
  let _ ← execBlock inner (← beginBody inner body)
  if bodyUses "super" treeDepth false body || bodyUses "__class__" treeDepth false body then
    setItem space (.text "__classcell__") (.ref cell)
  if bases.length ≠ given.length || (bases.zip given).any fun (a, b) => !a.same b then setItem space (.text "__orig_bases__") (.tuple given)
  let cls ← call kind [.text name, .tuple bases, space] named
  putAttr cell "__class__" cls
  changeName env name (some (← wraps.reverse.foldlM (fun c wrap => call wrap [c]) cls))

/-! ## Errors -/

def errorFor (noun : Text) : Run σ Obj := do
  let refuse : Run σ Obj := typeError [noun, " must derive from BaseException"]
  let some (a, _) ← class? o | if ← isA o "BaseException" then return o else refuse
  if !(← derives a (known "BaseException")) then return ← refuse
  let e ← call o []
  if !(← isA e "BaseException") then
    typeError ["calling ", ← reprVia o, " should have returned an instance of BaseException, not ",
      ← reprVia (.ref (← typeOf e))]
  return e

def unlink (a : Address) (e first : Obj) : Run σ Unit := do
  let rec go : Nat → Obj → Run σ Unit
    | 0, _ => return ()
    | count + 1, o => do
      let (.ref b, some next) := (o, ← ownAttr? o ".context") | return ()
      if next.same e && b ≠ a then putAttr b ".context" .none else go count next
  go 1000 first

def setContext : Run σ Unit := do
  let (.ref a, context :: _) := (e, (← get).handled) | return ()
  if !context.same e then
    putAttr a ".context" context
    unlink a e context

def noteContext : Run σ Unit := do if (← ownAttr? e ".context").isNone then setContext e

def raiseError (error? cause? : Option Expr) : Run σ Flow := do
  if let some expr := error? then
    let o ← eval env expr
    let cause? ← cause?.mapM (eval env)
    let e ← errorFor o "exceptions"
    if let some cause := cause? then
      setCause e (← match cause with
        | .none => pure .none
        | cause => errorFor cause "exception causes")
    setContext e
    throw e
  let e :: _ := (← get).handled | fail "RuntimeError" "No active exception to reraise"
  throw e

def whileHandling (action : Run σ α) : Run σ α := do
  let before := (← get).handled
  modify fun w => { w with handled := e :: before }
  ensuring (modify fun w => { w with handled := before }) (tryCatch action fun other => do
    noteContext other
    throw other)

def isCaught (cls : Obj) : Run σ Bool := do
  let classes := match cls with
    | .tuple items => items
    | c => [c]
  classes.anyM fun c => do
    let refuse : Run σ Bool := typeError ["catching classes that do not inherit from BaseException is not allowed"]
    let some (a, _) ← class? c | refuse
    if ← derives a (known "BaseException") then derives (← typeOf e) a else refuse

def forgetName (name? : Option Text) : Run σ Unit := do
  if let some name := name? then
    changeName env name (some .none)
    changeName env name none

def handlerFor? (env : Env) (e : Obj) : List Handler → Run σ (Option Handler)
  | [] => return none
  | h :: rest => do
    let caught ← whileHandling e (h.class?.elim (return true) fun expr => do isCaught e (← eval env expr))
    if caught then return some h else handlerFor? env e rest

def Remainder.add (part error : Obj) : Remainder :=
  if error.same part then { r with again := r.again ++ [error] } else { r with raised := r.raised ++ [error] }

def Remainder.error? : Run σ (Option Obj) :=
  gatheredError? whole r.raised (r.again ++ r.rest?.toList)

def Remainder.take (h : Handler) : Run σ (Option Obj × Remainder) := do
  let cls ← whileHandling whole (h.class?.elim (return .none) (eval env))
  let (part?, rest?) ← takenPart (r.rest?.getD .none) cls
  return (part?, { r with rest? := if r.rest?.isNone then none else rest? })

def outcome (action : Run σ α) : Run σ (Except Obj α) := tryCatch (do return .ok (← action)) fun e => return .error e

def managerFunctions (isAsync : Bool) (manager : Obj) : Run σ (Obj × Obj) := do
  let kind : Text := if isAsync then "asynchronous context manager" else "context manager"
  let (enter, exit) : Text × Text := if isAsync then ("__aenter__", "__aexit__") else ("__enter__", "__exit__")
  let missing (hint : Text) : Run σ Obj := do
    typeError ["'", ← typeName manager, "' object does not support the ", kind, " protocol", hint]
  let f ← (← special? manager enter).getDM (missing [])
  return (f, ← (← special? manager exit).getDM (missing (Text.concat [" (missed ", exit, " method)"])))

/-! ## Modules -/

def runPackage (path : Text) : Run σ Unit := do
  if let some a := Keyed.get? path (← get).modules then
    if let some (.text name) := nameIn? "__name__" (← attrsOf a) then
      if (← get).pending.contains name then
        modify fun w => { w with pending := w.pending.erase name }
        let body := packageBody name
        let env : Env := { standing := .module, names := namesOf body, module := a }
        let _ ← deeper a do execBlock env (← beginBody env body)

def findModule : Run σ Obj := do
  let rec go (done : List Text) : List Text → Run σ Obj
    | [] => return .none
    | part :: rest => do
      let name := Text.join "." (done ++ [part])
      match Keyed.get? name (← get).modules with
      | some a => if rest.isEmpty then return .ref a else go (done ++ [part]) rest
      | none =>
        let above := Text.join "." done
        let hasParts ← (Keyed.get? above (← get).modules).elim (return true) fun a => do
          return (← ownAttr? (.ref a) "__path__").isSome
        let reason : Text := if done.isEmpty || hasParts then [] else "; " ++ Quoted.text above ++ " is not a package"
        raise "ModuleNotFoundError" ["No module named ", Quoted.text name, reason]
  go [] path

def loadModule : Run σ Obj := do
  let m ← findModule path
  for count in List.range path.length do runPackage (Text.join "." (path.take (count + 1)))
  return m

def execLoad (modules : List (List Text × Option Text)) : Run σ Unit := do
  for (path, other?) in modules do
    let m ← loadModule path
    let some other := other? | changeName env (path.headD []) (some (← loadModule (path.take 1)))
    changeName env other (some m)

def execLoadFrom (level : Nat) (path : List Text) (names : List (Text × Option Text)) : Run σ Unit := do
  if level ≠ 0 then fail "ImportError" "attempted relative import with no known parent package"
  let m ← findModule path
  let module := Text.join "." path
  let isThere ← names.allM fun (name, _) => do return (← ownAttr? m name).isSome
  if names.isEmpty || !isThere then let _ ← loadModule path
  let find (name : Text) : Run σ Obj := do
    (← getAttr? m name).getDM do
      if let some a := Keyed.get? (module ++ "." ++ name) (← get).modules then return .ref a
      raise "ImportError" ["cannot import name ", Quoted.text name, " from ", Quoted.text module,
        " (unknown location)"]
  if names.isEmpty then
    match ← getAttr? m "__all__" with
    | some all =>
      for item in ← itemsOf all do
        if let some name ← textOf? item then changeName env name (some (← find name))
    | none =>
      if let .ref a := m then
        for (name, v) in ← attrsOf a do
          if name.take 1 ≠ "_" then changeName env name (some v)
  else
    for (name, other?) in names do
      let o ← find name
      if ← isA o "module" then runPackage (← strOf (← getAttr o "__name__"))
      changeName env (other?.getD name) (some o)

/-! ## Statements -/

def execAugment (op : BinaryOp) (value : Expr) : Run σ Unit := do
  match target with
  | .name n =>
    let before ← nameValue env n
    changeName env n (some (← operateInPlace op before (← eval env value)))
  | .dotted owner n =>
    let o ← eval env owner
    let before ← getAttr o (env.ownName n)
    setAttr o (env.ownName n) (← operateInPlace op before (← eval env value))
  | .item owner index =>
    let o ← eval env owner
    let i ← eval env index
    let before ← getItem o i
    setItem o i (← operateInPlace op before (← eval env value))
  | _ => return ()

def execAnnotate (hint : Expr) (value? : Option Expr) (isPlain : Bool) : Run σ Unit := do
  if let some value := value? then bindTarget env targetDepth target (← eval env value)
  match target, env.standing with
  | .name _, .function _ => return ()
  | .name n, _ =>
    if isPlain then
      setItem (← nameValue env "__annotations__") (.text (env.ownName n)) (.text (Expr.written treeDepth .test hint))
  | .dotted owner _, _ =>
    if value?.isNone then let _ ← eval env owner
  | .item owner index, _ =>
    if value?.isNone then
      let _ ← eval env owner
      let _ ← eval env index
  | _, _ => return ()

def Obj.within : Obj → Bool
  | .tuple items => items.any fun item => o.same item
  | .bound self _ _ _ => o.same self
  | other => o.same other

def Payload.mentions : Payload → Bool
  | .value v => o.within v
  | .list items | .iterator items | .stream items => items.any o.within
  | .dict entries => entries.any fun (k, v) => o.within k || o.within v
  | .set places => (membersOf places).any o.within
  | .method self fn => o.within self || o.within fn
  | .wrapper fn => o.within fn
  | .generator g => g.tasks.any fun
    | .each _ it _ _ | .forward _ it => o.within it
    | _ => false
  | .function f => f.slots.any fun s => s.default?.any o.within
  | _ => false

def letGo (it : Obj) : Run σ Unit := do
  if let .generator g ← payloadOf it then
    if g.stage = .paused then
      if !((← get).heap.any fun c => (c.attrs.any fun (_, v) => it.same v) || c.payload.mentions it) then
        let _ ← callMethod it "close" []

def afterBody : Flow → Option Flow
  | .next | .again => none
  | .stop => some .next
  | .give v => some (.give v)

/-- What a statement does that guards no others. -/
def execStmt (s : Stmt) : Run σ Flow := do
  match s with
  | .expr e => discard (eval env e)
  | .assign targets value =>
    let o ← eval env value
    for target in targets do bindTarget env targetDepth target o
  | .augment target op value => execAugment env target op value
  | .annotate target hint value? isPlain => execAnnotate env target hint value? isPlain
  | .delete targets => for target in targets do deleteTarget env targetDepth target
  | .pass | .global _ | .nonlocal _ | .attempt .. | .within .. => pure ()
  | .stop => return .stop
  | .next => return .again
  | .give e? => return .give (← e?.elim (return .none) (eval env))
  | .raise error? cause? => return ← raiseError env error? cause?
  | .assert condition message? =>
    if !(← truthOf (← eval env condition)) then
      throw (← newError "AssertionError" (← message?.toList.mapM (eval env)))
  | .load modules => execLoad env modules
  | .loadFrom level path names => execLoadFrom env level path names
  | .choose condition yes no => return ← execBlock env (if ← truthOf (← eval env condition) then yes else no)
  | .loop condition body otherwise =>
    return ← repeatUntil do
      if ← truthOf (← eval env condition) then return afterBody (← execBlock env body)
      some <$> execBlock env otherwise
  | .each _ target source body otherwise =>
    let it ← iteratorOf (← eval env source)
    return ← ensuring (letGo it) (repeatUntil do
      let some o ← nextOf? it | some <$> execBlock env otherwise
      bindTarget env targetDepth target o
      return afterBody (← execBlock env body))
  | .function name params returns? body decorators isAsync =>
    defineFunction env name params returns? body decorators isAsync
  | .classDef name args body decorators => defineClass env name args body decorators
  | .select subject cases => return ← execBlock env (← chosenCase env (← eval env subject) cases)
  return .next

end Counterpart.Script
