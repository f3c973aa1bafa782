import Counterpart.Script.Execute

/-!
Functions that pause. Their bodies are taken apart into tasks: a statement that does not pause is one task, others
are split at their pauses, and a value that is needed behind a pause is kept under a name of its own. What is
left to do is a list of tasks, so that it can be put aside at any pause and taken up again.
-/
namespace Counterpart.Script

variable {σ α : Type} (env : Env) (label : Text) (o : Obj) (tasks : List Task) (e : Expr) (isAsync : Bool)
variable (place : Text) (manager : Obj)

/-! ## Taking statements apart -/

abbrev Plan := StateM Nat

def freshPlace : Plan Text := modifyGet fun n => (("." ++ Text.ofNat n), n + 1)

def Expr.isFixed : Expr → Bool
  | .constant _ => true
  | .name n => n.head? = some (CodePoint.ofChar '.')
  | _ => false

def Expr.pauses : Bool := e.yields treeDepth

def keptIn : Plan (List Task × Expr) := do
  if e.isFixed then return (tasks, e)
  let place ← freshPlace
  match e with
  | .starred inner => return (tasks ++ [.keep place inner], .starred (.name place))
  | e => return (tasks ++ [.keep place e], .name place)

def splitRow (split : Expr → Plan (List Task × Expr)) : List Expr → Plan (List Task × List Expr)
  | [] => return ([], [])
  | e :: rest => do
    let (tasks, e) ← split e
    let (tasks, e) ← if rest.any Expr.pauses then keptIn tasks e else pure (tasks, e)
    let (more, rest) ← splitRow split rest
    return (tasks ++ more, e :: rest)

def splitDecisive (split : Expr → Plan (List Task × Expr)) (wanted : Bool) (build : List Expr → Expr) :
    List Expr → Plan (List Task × Expr)
  | [] => return ([], build [])
  | [e] => split e
  | e :: rest => do
    let (tasks, e) ← split e
    if rest.any Expr.pauses then
      let place ← freshPlace
      let (more, last) ← splitDecisive split wanted build rest
      let further := more ++ [.keep place last]
      let choice : Task := if wanted then .decide (.name place) [] further else .decide (.name place) further []
      return (tasks ++ [.keep place e, choice], .name place)
    return (tasks, build (e :: rest))

def Argument.withValue : Argument → Expr → Argument
  | .positional _, e => .positional e
  | .spread _, e => .spread e
  | .named n _, e => .named n e
  | .spreadNamed _, e => .spreadNamed e

def optionalParts (given : List (Option Expr)) (parts : List Expr) : List (Option Expr) :=
  (given.foldl (fun (built, parts) part? =>
    match part?, parts with
    | some _, e :: rest => (built ++ [some e], rest)
    | _, parts => (built ++ [none], parts)) (([], parts) : List (Option Expr) × List Expr)).1

def splitExpr : Nat → Expr → Plan (List Task × Expr)
  | 0, e => return ([], e)
  | fuel + 1, e => do
    if !e.pauses then return ([], e)
    let split := splitExpr fuel
    let row (parts : List Expr) (build : List Expr → Expr) : Plan (List Task × Expr) := do
      let (tasks, parts) ← splitRow split parts
      return (tasks, build parts)
    let first (parts : List Expr) : Expr := parts.headD (.constant .null)
    let second (parts : List Expr) : Expr := parts.getD 1 (.constant .null)
    match e with
    | .yield inner? =>
      let (tasks, inner) ← split (inner?.getD (.constant .null))
      let place ← freshPlace
      return (tasks ++ [.pause place inner], .name place)
    | .yieldEach inner | .await inner =>
      let (tasks, inner) ← split inner
      let place ← freshPlace
      return (tasks ++ [.delegate place inner (e matches .await _)], .name place)
    | .all items => splitDecisive split false .all items
    | .any items => splitDecisive split true .any items
    | .choice condition yes no =>
      let (tasks, condition) ← split condition
      if yes.pauses || no.pauses then
        let place ← freshPlace
        let (before, yes) ← split yes
        let (otherwise, no) ← split no
        return (tasks ++ [.decide condition (before ++ [.keep place yes]) (otherwise ++ [.keep place no])],
          .name place)
      return (tasks, .choice condition yes no)
    | .joined parts => row parts .joined
    | .field value conversion? spec? =>
      row (value :: spec?.toList) fun parts => .field (first parts) conversion? (parts[1]?)
    | .tuple items => row items .tuple
    | .list items => row items .list
    | .set items => row items .set
    | .dict keys values =>
      let parts := (keys.zip values).flatMap fun (key?, value) => key?.toList ++ [value]
      row parts fun parts =>
        let built := optionalParts ((keys.zip values).flatMap fun (key?, value) => [key?, some value]) parts
        let pairs := built.zipIdx
        .dict ((pairs.filter fun (_, n) => n % 2 = 0).map (·.1))
          ((pairs.filter fun (_, n) => n % 2 = 1).map fun (e?, _) => e?.getD (.constant .null))
    | .unary op operand => row [operand] fun parts => .unary op (first parts)
    | .binary op left right => row [left, right] fun parts => .binary op (first parts) (second parts)
    | .compare left ops others => row (left :: others) fun parts => .compare (first parts) ops (parts.drop 1)
    | .call callee args =>
      row (callee :: args.map Argument.value) fun parts =>
        .call (first parts) ((args.zip (parts.drop 1)).map fun (arg, e) => arg.withValue e)
    | .dotted owner name => row [owner] fun parts => .dotted (first parts) name
    | .item owner index => row [owner, index] fun parts => .item (first parts) (second parts)
    | .slice lower? upper? step? =>
      row ([lower?, upper?, step?].filterMap id) fun parts =>
        match optionalParts [lower?, upper?, step?] parts with
        | [a, b, c] => .slice a b c
        | _ => .slice none none none
    | .starred inner => row [inner] fun parts => .starred (first parts)
    | .bind name value => row [value] fun parts => .bind name (first parts)
    | .collect kind element value? (c :: clauses) =>
      row [c.source] fun parts => .collect kind element value? ({ c with source := first parts } :: clauses)
    | e => return ([], e)

def Expr.split : Plan (List Task × Expr) := splitExpr treeDepth e

def Stmt.pauses (s : Stmt) : Bool :=
  (flattened treeDepth [s]).any fun s =>
    s.exprs.any Expr.pauses ||
      match s with
      | .each isAsync .. | .within isAsync .. => isAsync
      | _ => false

def tasksOf (body : List Stmt) : List Task := body.map .run

def withExpr (build : Expr → List Task) : Plan (List Task) := do
  let (tasks, e) ← e.split
  return tasks ++ build e

def planAugment (target : Expr) (op : BinaryOp) (value : Expr) : Plan (List Task) := do
  let place ← freshPlace
  let (before, target) ← match target with
    | .dotted owner name => do
      let (tasks, owner) ← owner.split
      let (tasks, owner) ← keptIn tasks owner
      pure (tasks, Expr.dotted owner name)
    | .item owner index => do
      let (tasks, parts) ← splitRow Expr.split [owner, index]
      let (tasks, owner) ← keptIn tasks (parts.headD (.constant .null))
      let (tasks, index) ← keptIn tasks (parts.getD 1 (.constant .null))
      pure (tasks, Expr.item owner index)
    | target => pure ([], target)
  let (tasks, value) ← value.split
  return before ++ [.keep place target] ++ tasks ++
    [.run (.augment (.name place) op value), .run (.assign [target] (.name place))]

def planWithin (isAsync : Bool) (body : List Stmt) : List (Expr × Option Expr) → Plan (List Task)
  | [] => return tasksOf body
  | (e, target?) :: rest => do
    let (tasks, e) ← e.split
    return tasks ++ [.enter isAsync e target? (← planWithin isAsync body rest)]

def Stmt.plan (s : Stmt) : Plan (List Task) := do
  match s with
  | .expr e => withExpr e fun e => [.run (.expr e)]
  | .assign targets value => withExpr value fun value => [.run (.assign targets value)]
  | .augment target op value => planAugment target op value
  | .annotate target hint (some value) isPlain => withExpr value fun value =>
      [.run (.annotate target hint (some value) isPlain)]
  | .delete targets =>
    let (tasks, targets) ← splitRow Expr.split targets
    return tasks ++ [.run (.delete targets)]
  | .give (some e) => withExpr e fun e => [.run (.give (some e))]
  | .raise error? cause? =>
    let (tasks, parts) ← splitRow Expr.split (error?.toList ++ cause?.toList)
    let [error?, cause?] := optionalParts [error?, cause?] parts | return tasks
    return tasks ++ [.run (.raise error? cause?)]
  | .assert condition message? =>
    let (otherwise, parts) ← splitRow Expr.split message?.toList
    withExpr condition fun condition =>
      [.decide condition [] (otherwise ++ [.run (.assert (.constant (.truth false)) parts.head?)])]
  | .choose condition yes no => withExpr condition fun e => [.decide e (tasksOf yes) (tasksOf no)]
  | .loop condition body otherwise => return [.loop condition body otherwise]
  | .each isAsync target source body otherwise =>
    if isAsync then
      let place ← freshPlace
      withExpr source fun e => [.keep place e, .iterate target (.await (.name place)) body otherwise]
    else withExpr source fun e => [.iterate target e body otherwise]
  | .attempt body handlers otherwise last =>
    return tasksOf body ++ .guarded handlers otherwise :: if last.isEmpty then [] else [.finally last]
  | .within isAsync items body => planWithin isAsync body items
  | .select subject cases =>
    let place ← freshPlace
    withExpr subject fun e => [.keep place e, .cases place cases]
  | s => return [.run s]

/-! ## Doing tasks -/

/-- How things go on after a task: with other tasks before those that are left, or after a pause. -/
inductive Move where
  | go (s : Signal) (tasks : List Task)
  | pause (value : Obj) (tasks : List Task)

def Move.to : Move := .go (.flow .next) tasks

def keepValue (value : Obj) : Run σ Unit := do
  if let .function frame := env.standing then
    if let .frame names := (← cellAt frame).payload then
      if !names.contains place then setPayload frame (.frame (names ++ [place]))
    putAttr frame place value

def pushHandled (e : Obj) : Run σ Unit := modify fun w => { w with handled := e :: w.handled }

def popHandled : Run σ Unit := modify fun w => { w with handled := w.handled.drop 1 }

def Signal.next : Signal := .flow .next

def awaitIterator : Run σ Obj := do
  if ← isA o "coroutine" then return o
  let some f ← special? o "__await__" | typeError ["object ", ← typeName o, " can't be used in 'await' expression"]
  let it ← callSpecial f o []
  if ← isA it "coroutine" then typeError ["__await__() returned a coroutine"]
  if (← special? it "__next__").isNone then
    typeError ["__await__() returned non-iterator of type '", ← typeName it, "'"]
  return it

def endValue (e : Obj) : Run σ Obj := do (← ownAttr? e ".value").getDM do return (← errorArgs e).headD .none

def forwardTo (it : Obj) (arrival : Except Obj Obj) : Run σ Move := do
  let finished (e : Obj) : Run σ Move := do
    keepValue env place (← endValue e)
    return .to []
  let given (action : Run σ Obj) : Run σ Move :=
    attempt (do return .pause (← action) [.forward place it]) ["StopIteration"] finished
  match arrival with
  | .ok .none =>
    given do
      let some f ← special? it "__next__" | callMethod it "send" [.none]
      callSpecial f it []
  | .ok v => given (callMethod it "send" [v])
  | .error e =>
    if ← isA e "GeneratorExit" then
      if let some close ← getAttr? it "close" then let _ ← call close []
      return .go (.fail e) []
    let some f ← getAttr? it "throw" | return .go (.fail e) []
    given (call f [e])

def exitArguments : Signal → Run σ (List Obj)
  | .fail e => do return [.ref (← typeOf e), e, (← getAttr? e "__traceback__").getD .none]
  | _ => return [.none, .none, .none]

def afterLeaving (s : Signal) (answer : Obj) : Run σ Move := do
  if let .fail _ := s then if ← truthOf answer then return .to []
  return .go s []

def enterManager (target? : Option Expr) (rest : List Task) :
    Run σ Move := do
  let (enter, exit) ← managerFunctions isAsync manager
  let entered ← callSpecial enter manager []
  let inside (bind : Expr → Task) : List Task := target?.toList.map bind ++ rest ++ [.leave isAsync manager exit]
  if isAsync then
    let (place, waiting) : Text × Text := (".entered", ".entering")
    keepValue env waiting entered
    return .to (.delegate place (.name waiting) true :: inside fun t => .run (.assign [t] (.name place)))
  else return .to (inside (.bind · entered))

def leaveManager (exit : Obj) (s : Signal) : Run σ Move := do
  let args ← exitArguments s
  let leave : Run σ Obj := callSpecial exit manager args
  let answer ← if let .fail e := s then whileHandling e leave else leave
  if isAsync then
    let (place, waiting) : Text × Text := (".left", ".leaving")
    keepValue env waiting answer
    return .to [.delegate place (.name waiting) true, .left place s]
  afterLeaving s answer

def Task.take (task : Task) (s : Signal) : Run σ Move := do
  match s, task with
  | .flow .next, .run stmt =>
    if stmt.pauses then return .to (stmt.plan.run 0).1
    return .go (.flow (← exec env stmt)) []
  | .flow .next, .keep place e => keepValue env place (← eval env e)
  | .flow .next, .bind target value => bindTarget env targetDepth target value
  | .flow .next, .pause place e => return .pause (← eval env e) [.receive place]
  | .flow .next, .receive place => keepValue env place .none
  | .flow .next, .delegate place e isAwaited =>
    let o ← eval env e
    let it ← if isAwaited then awaitIterator o
      else if ← isA o "coroutine" then typeError ["cannot 'yield from' a coroutine object in a non-coroutine generator"]
      else iteratorOf o
    return ← forwardTo env place it (.ok .none)
  | .flow .next, .forward place it => return ← forwardTo env place it (.ok .none)
  | .flow .next, .decide condition yes no =>
    if ← truthOf (← eval env condition) then return .to yes else return .to no
  | .flow .next, .loop condition body otherwise | .flow .again, .loop condition body otherwise =>
    let (tasks, e) := (condition.split.run 0).1
    return .to (tasks ++ [.decide e (tasksOf body ++ [.loop condition body otherwise]) (tasksOf otherwise)])
  | .flow .next, .iterate target (.await source) body otherwise =>
    return .to [.eachAwaited target (← awaitedIteratorOf (← eval env source)) body otherwise]
  | .flow .next, .iterate target source body otherwise =>
    return .to [.each target (← iteratorOf (← eval env source)) body otherwise]
  | .flow .next, .each target it body otherwise | .flow .again, .each target it body otherwise =>
    let some item ← nextOf? it | return .to (tasksOf otherwise)
    bindTarget env targetDepth target item
    return .to (tasksOf body ++ [.each target it body otherwise])
  | .flow .stop, .each _ it _ _ => letGo it
  | .flow .next, .eachAwaited target it body otherwise | .flow .again, .eachAwaited target it body otherwise =>
    let (place, waiting) : Text × Text := (".item", ".next")
    keepValue env waiting (← callMethod it "__anext__" [])
    return .to [.delegate place (.name waiting) true, .arrive place target it body otherwise]
  | .flow .stop, .loop .. | .flow .stop, .eachAwaited .. => pure ()
  | .flow .next, .arrive place target it body otherwise =>
    bindTarget env targetDepth target (← nameValue env place)
    return .to (tasksOf body ++ [.eachAwaited target it body otherwise])
  | .fail e, .arrive _ _ _ _ otherwise =>
    if ← isA e "StopAsyncIteration" then return .to (tasksOf otherwise) else return .go s []
  | .flow .next, .guarded _ otherwise => return .to (tasksOf otherwise)
  | .fail e, .guarded handlers _ =>
    noteContext e
    if handlers.any Handler.isGroup then return .to [.parts handlers e none { rest? := some e }]
    let some h ← handlerFor? env e handlers | return .go s []
    if let some name := h.name? then changeName env name (some e)
    pushHandled e
    return .to (tasksOf h.body ++ [.handled h.name?])
  | s, .parts handlers whole part? r =>
    let r := match s, part? with
      | .fail e, some part => r.add part e
      | _, _ => r
    match handlers with
    | [] => if let some e ← r.error? whole then return .go (.fail e) []
    | h :: rest =>
      let (part?, r) ← r.take env whole h
      let some part := part? | return .to [.parts rest whole none r]
      if let some name := h.name? then changeName env name (some part)
      pushHandled part
      return .to (tasksOf h.body ++ [.handled h.name?, .parts rest whole (some part) r])
  | s, .handled name? =>
    if let .fail e := s then noteContext e
    popHandled
    forgetName env name?
    return .go s []
  | s, .finally last =>
    if let .fail e := s then pushHandled e
    return .to (tasksOf last ++ [.resume s])
  | now, .resume before =>
    if let .fail _ := before then
      if let .fail e := now then noteContext e
      popHandled
    match now with
    | .flow .next => return .go before []
    | now => return .go now []
  | .flow .next, .enter isAsync e target? rest => return ← enterManager env isAsync (← eval env e) target? rest
  | s, .leave isAsync manager exit => return ← leaveManager env isAsync manager exit s
  | .flow .next, .left place before => return ← afterLeaving before (← nameValue env place)
  | .flow .next, .cases place options => return .to (tasksOf (← chosenCase env (← nameValue env place) options))
  | s, _ => return .go s []
  return .to []

/-- How far a function came: to a pause, where it gives something away, or to its end. -/
inductive Progress where
  | paused (value : Obj) (tasks : List Task)
  | ended (s : Signal)

def goOn (go : Signal → List Task → Run σ Progress) (rest : List Task) : Except Obj Move → Run σ Progress
  | .ok (.go s tasks) => go s (tasks ++ rest)
  | .ok (.pause value tasks) => return .paused value (tasks ++ rest)
  | .error e => go (.fail e) rest

def advance (env : Env) : Nat → Signal → List Task → Run σ Progress
  | 0, _, _ => fail "RecursionError" "maximum recursion depth exceeded"
  | _ + 1, s, [] => return .ended s
  | count + 1, s, task :: rest => do goOn (advance env count) rest (← outcome (task.take env s))

def execGuarding (s : Stmt) : Run σ Flow := do
  match s with
  | .attempt .. | .within .. =>
    match ← advance env repeatLimit .next (s.plan.run 0).1 with
    | .ended (.fail e) => throw e
    | .ended (.flow f) => return f
    | .paused .. => return .next
  | s => execStmt env s

def takeUp (g : Generator) (arrival : Except Obj Obj) : Run σ Progress := do
  let go := advance g.env repeatLimit
  match g.stage, arrival, g.tasks with
  | .fresh, .ok _, tasks => go .next tasks
  | .fresh, .error e, _ => return .ended (.fail e)
  | _, .ok v, .receive place :: rest =>
    keepValue g.env place v
    go .next rest
  | _, arrival, .forward place it :: rest => goOn go rest (← outcome (forwardTo g.env place it arrival))
  | _, .error e, _ :: rest => go (.fail e) rest
  | _, _, tasks => go .next tasks

def resume (a : Address) (g : Generator) (arrival : Except Obj Obj) : Run σ Progress := do
  let outer := (← get).handled
  setPayload a (.generator { g with stage := .running })
  modify fun w => { w with handled := g.handled ++ outer }
  let result ← outcome (deeper g.env.module (takeUp g arrival))
  let inner := (← get).handled
  modify fun w => { w with handled := outer }
  match result with
  | .ok (.paused value tasks) =>
    let handled := inner.take (inner.length - outer.length)
    setPayload a (.generator { g with tasks, handled, stage := .paused })
    return .paused value tasks
  | result =>
    setPayload a (.generator { g with tasks := [], handled := [], stage := .ended })
    match result with
    | .ok progress => return progress
    | .error e => return .ended (.fail e)

/-! ## Generators -/

def pausingLabel : Run σ Text := do
  if ← isA o "coroutine" then return "coroutine"
  if ← isA o "async_generator" then return "async generator"
  return "generator"

def raisedInside (kind : Text) (e : Obj) : Run σ α := do
  let error ← newError "RuntimeError" [.text (label ++ " raised " ++ kind)]
  setCause error e
  if let .ref a := error then putAttr a ".context" e
  throw error

def outOf (progress : Progress) : Run σ Obj := do
  match progress with
  | .paused value _ => return value
  | .ended (.flow (.give .none)) => raiseBare "StopIteration"
  | .ended (.flow (.give v)) => throw (← newError "StopIteration" [v])
  | .ended (.flow _) => raiseBare "StopIteration"
  | .ended (.fail e) => if ← isA e "StopIteration" then raisedInside label "StopIteration" e else throw e

def sendTo (self value : Obj) : Run σ Obj := do
  let (.ref a, .generator g) := (self, ← payloadOf self) | raiseBare "StopIteration"
  let label ← pausingLabel self
  match g.stage, value with
  | .running, _ => fail "ValueError" (label ++ " already executing")
  | .ended, _ =>
    if label = "coroutine" then fail "RuntimeError" "cannot reuse already awaited coroutine"
    raiseBare "StopIteration"
  | .fresh, .none => outOf label (← resume a g (.ok .none))
  | .fresh, _ => typeError ["can't send non-None value to a just-started ", label]
  | .paused, value => outOf label (← resume a g (.ok value))

/-- Goes on with a function that pauses, and tells how far it came: to an item, to something that is awaited, to its
end, or to an error. -/
def resumed (self isError value : Obj) : Run σ Obj := do
  let (.ref a, .generator g) := (self, ← payloadOf self) | return .none
  let told (n : Int) (o : Obj) : Run σ Obj := return .tuple [.int n, o]
  match ← resume a g (if ← truthOf isError then .error value else .ok value) with
  | .paused o (.receive _ :: _) => told 0 o
  | .paused o _ => told 1 o
  | .ended (.flow (.give o)) => told 2 o
  | .ended (.flow _) => told 2 .none
  | .ended (.fail e) => told 3 e

def generatorNatives : Natives σ :=
  [("__iter__", operator0 fun self => return self), ("__next__", operator0 fun self => sendTo self .none),
   ("send", unary "generator.send" sendTo)]

def coroutineNatives : Natives σ := [("send", unary "coroutine.send" sendTo)]

end Counterpart.Script
