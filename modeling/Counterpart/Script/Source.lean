import Counterpart.Script.Pause
import Counterpart.Text.SurrogateRun

/-!
Texts that are run: the value of a text that is an expression, and what the statements of a text do to a
namespace.
-/
namespace Counterpart.Script

variable {σ α : Type} (d : Obj) (file label : Text) (globals o : Obj) (isExpr : Bool) (locals : Obj)

/-- The object whose attributes are the names of a dictionary. A dictionary that holds its own entries is given
such an object, so that the two stay the same. -/
def spaceOwner : Run σ Address := do
  match d, ← payloadOf d with
  | _, .attributes owner => return owner
  | .ref a, _ =>
    let owner ← allocate { cls := known "module", attrs := ← spaceOf d, payload := .module }
    setPayload a (.attributes owner)
    return owner
  | _, _ => return 0

def isSameSpace (e : Obj) : Run σ Bool := do
  let (.attributes a, .attributes b) := (← payloadOf d, ← payloadOf e) | return d.same e
  return a = b

def envFor (names : Names) : Run σ Env := do
  let isOne ← isSameSpace globals locals
  let module ← spaceOwner globals
  if (← ownAttr? (.ref module) "__builtins__").isNone then
    putAttr module "__builtins__" (← attributesOf (.ref ((← loadedModule? "builtins").getD 0)))
  return { standing := if isOne then .module else .cls locals, names, module }

def failReading (e : ReadError) : Run σ α := do
  let place : Obj := .tuple [.text file, .int 1, .int 1, .none, .int 1, .int 1]
  if e.isPlaced then throw (← call (.ref (known e.kind)) [.text e.message, place]) else fail e.kind e.message

def bodyOf (source : Text) : Run σ Body := do
  if let some run := SurrogateRun.of? source then fail "UnicodeEncodeError" run.message
  if isExpr then
    match compileExpression (source.dropWhile fun c => c = ' ' || c = '\t') with
    | .ok e => return .expr e
    | .error e => failReading file e
  else
    match compileModule source with
    | .ok body => return .block body (namesOf body) false false
    | .error e => failReading file e

def sourceText? : Run σ (Option Text) := do
  match ← textOf? o, ← bytesOf? o with
  | some t, _ => return some t
  | none, some b => some <$> decodeBytes b "utf-8" "strict"
  | none, none => return none

def sourceBody (o : Obj) : Run σ Body := do
  if ← isA o "code" then return (← heldFunction (← plainValue o)).body
  let some t ← sourceText? o | typeError [label, "() arg 1 must be a string, bytes or code object"]
  bodyOf "<string>" isExpr t

def runIn (body : Body) : Run σ Obj := do
  match body with
  | .expr e =>
    let env ← envFor globals locals {}
    deeper env.module (eval env e)
  | .block body names _ _ =>
    let env ← envFor globals locals names
    let _ ← deeper env.module do execBlock env (← beginBody env body)
    return .none
  | _ => return .none

def callerSpace : Run σ Obj := do
  let m :: _ := (← get).callers | newDict []
  attributesOf (.ref m)

def isMapping : Run σ Bool := do return (← special? o "__getitem__").isSome

def checkedSpaces (globals locals : Obj) : Run σ (Obj × Obj) := do
  let refuseLocals : Run σ Unit := do
    if !locals.same .none && !(← isMapping locals) then
      if isExpr then typeError ["locals must be a mapping"]
      typeError ["locals must be a mapping or None, not ", ← typeName locals]
  if isExpr then refuseLocals
  if !globals.same .none && !(← isDict globals) then
    if isExpr then
      if ← isMapping globals then typeError ["globals must be a real dict; try eval(code, \x7b\x7d, mapping)"]
      typeError ["globals must be a dict"]
    else typeError [label, "() globals must be a dict, not ", ← typeName globals]
  if !isExpr then refuseLocals
  let globals ← if globals.same .none then callerSpace else pure globals
  return (globals, if locals.same .none then globals else locals)

def runGiven : Native σ := fun args named => do
  noNamed label named
  checkCount label 1 3 args
  let (globals, locals) ← checkedSpaces label isExpr (args.getD 1 .none) (args.getD 2 .none)
  let value ← runIn globals locals (← sourceBody label isExpr (args.headD .none))
  return if isExpr then value else .none

def compileGiven : Native σ := fun args named => do
  let names : List Text := ["source", "filename", "mode", "flags", "dont_inherit", "optimize", "_feature_version"]
  let given ← namedArgs "compile" names 3 args named
  let part (place : Nat) : Obj := (given.getD place none).getD .none
  let some file ← sourceText? (part 1) | typeError ["expected str, bytes or os.PathLike object, not ", ← typeName (part 1)]
  let some mode ← textOf? (part 2) | typeError ["compile() argument 'mode' must be str, not ", ← typeName (part 2)]
  if !( ["exec", "eval", "single"] : List Text).contains mode then
    fail "ValueError" "compile() mode must be 'exec', 'eval' or 'single'"
  let source ← (← sourceText? (part 0)).getDM do typeError ["compile() arg 1 must be a string, bytes or AST object"]
  let body ← bodyOf file (mode = "eval") source
  let f ← newObject "function" (.function { name := "<module>", qualname := "<module>", slots := [], body })
  newObject "code" (.value f)

/-- Loads a module by its name. It gives the outermost part, or the module itself where names of it are wanted. -/
def loadGiven : Native σ := fun args named => do
  let names : List Text := ["name", "globals", "locals", "fromlist", "level"]
  let given ← namedArgs "__import__" names 1 args named
  let part (place : Nat) (absent : Obj) : Obj := (given.getD place none).getD absent
  let name ← (← textOf? (part 0 .none)).getDM do typeError ["module name must be a string"]
  if (← indexOf (part 4 (.int 0))) ≠ 0 then fail "ImportError" "attempted relative import with no known parent package"
  if name.isEmpty then fail "ValueError" "Empty module name"
  let path := Text.splitAt '.' name
  let m ← loadModule path
  if ← truthOf (part 3 .none) then return m else loadModule (path.take 1)

def sourceFunctions : Natives σ :=
  [("eval", runGiven "eval" true), ("exec", runGiven "exec" false), ("compile", compileGiven), ("__import__", loadGiven)]

end Counterpart.Script
