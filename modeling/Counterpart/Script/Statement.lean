import Counterpart.Script.Descent
import Counterpart.Script.Pattern

/-!
Reading statements. Lines that belong to a statement are read by the rule that is handed down, so that
reading goes down by one level with each block.
-/
namespace Counterpart.Script

open Reader

namespace Rules
variable (r : Rules)

/-! ## Statements on one line -/

def givenValue : Reader Expr := do
  if ← atWord "yield" then yielded r else starExpressions r

def assignment (first : Expr) : Reader Stmt := do
  let given := first :: (← many (after? (takeMark? "=") (givenValue r)))
  match given.getLast?, given.dropLast with
  | some value, targets =>
    if areTargets true targets then return .assign targets value else fail
  | none, _ => fail

def expressionStatement : Reader Stmt := do
  let inBrackets ← atMark "("
  let first ← givenValue r
  let .mark t ← peek | return .expr first
  if t = "=" then assignment r first
  else if t = ":" then
    if !first.isSingleTarget then fail
    advance
    let hint ← r.expression
    let value? ← after? (takeMark? "=") (givenValue r)
    let isPlain := match first with
      | .name _ => !inBrackets
      | _ => false
    return .annotate first hint value? isPlain
  else
    let some op := (.matrixMultiply :: BinaryOp.onNumbers).find? (·.mark ++ "=" = t) | return .expr first
    if !first.isSingleTarget then fail
    advance
    return .augment first op (← givenValue r)

def nameList : Reader (List Text) := separated (takeMark? ",") name

def dottedName : Reader (List Text) := separated (takeMark? ".") name

def otherName? : Reader (Option Text) := after? (takeWord? "as") name

def loaded {α : Type} (item : Reader α) : Reader (α × Option Text) := do return ((← item), ← otherName?)

def startsName : Lexeme → Bool
  | .name _ => true
  | _ => false

def loadedNames : Reader (List (Text × Option Text)) := do
  if ← takeMark? "*" then return []
  let inBrackets ← takeMark? "("
  let (names, comma) ← commaList startsName (loaded name) (← loaded name)
  if inBrackets then mark ")"
  else if comma then failFor "trailing comma not allowed without surrounding parentheses"
  return names

def points : Reader Nat := do
  let found ← many do
    if ← takeMark? "." then return some 1
    if ← takeMark? "..." then return some 3
    return none
  return found.sum

def simple : Reader Stmt := do
  if ← takeWord? "pass" then return .pass
  if ← takeWord? "break" then return .stop
  if ← takeWord? "continue" then return .next
  if ← takeWord? "return" then return .give (← after? (startsStarred <$> peek) (starExpressions r))
  if ← takeWord? "raise" then
    let some e ← bound? r | return .raise none none
    return .raise (some e) (← after? (takeWord? "from") r.expression)
  if ← takeWord? "global" then .global <$> nameList
  else if ← takeWord? "nonlocal" then .nonlocal <$> nameList
  else if ← takeWord? "del" then
    let (items, _) ← commaList startsExpr r.bitOr (← r.bitOr)
    if !areTargets false items then fail
    return .delete items
  else if ← takeWord? "assert" then return .assert (← r.expression) (← after? (takeMark? ",") r.expression)
  else if ← takeWord? "import" then .load <$> separated (takeMark? ",") (loaded dottedName)
  else if ← takeWord? "from" then
    let level ← points
    let module ← if level = 0 || startsName (← peek) then dottedName else pure []
    word "import"
    return .loadFrom level module (← loadedNames)
  else expressionStatement r

def simpleLine : Reader (List Stmt) := do
  let first ← simple r
  let others ← many do
    let ⟨.mark m, _, _⟩ :: ⟨.newline, _, _⟩ :: _ ← get | after? (takeMark? ";") (simple r)
    if m = ";" then advance
    return none
  newline
  return first :: others

/-! ## Statements with blocks -/

def block (lines : Reader (List Stmt)) : Reader (List Stmt) := do
  mark ":"
  let .newline ← peek | simpleLine r
  advance
  let .indent ← peek | failWith (.indentation "expected an indented block")
  advance
  let body ← lines
  let .dedent ← peek | fail
  advance
  return body

def otherwise (lines : Reader (List Stmt)) : Reader (List Stmt) := do
  if ← takeWord? "else" then block r lines else return []

def elseChain (lines : Reader (List Stmt)) : List Token → Reader (List Stmt)
  | [] => fail
  | _ :: left => do
    if ← takeWord? "elif" then return [.choose (← named r) (← block r lines) (← elseChain lines left)]
    otherwise r lines

def handler? (lines : Reader (List Stmt)) : Reader (Option Handler) := do
  if ← takeWord? "except" then
    let isGroup ← takeMark? "*"
    if ← atMark ":" then
      if isGroup then failFor "expected one or more exception types"
      return some (.mk false none none (← block r lines))
    return some (.mk isGroup (some (← r.expression)) (← otherName?) (← block r lines))
  else return none

def areHandlersOrdered : List Handler → Bool
  | [] => true
  | [_] => true
  | .mk _ class? _ _ :: rest => class?.isSome && areHandlersOrdered rest

def attempt (lines : Reader (List Stmt)) : Reader Stmt := do
  let body ← block r lines
  let handlers ← many (handler? r lines)
  if handlers.isEmpty && !(← atWord "finally") then failFor "expected 'except' or 'finally' block"
  if handlers.any Handler.isGroup && !handlers.all Handler.isGroup then
    failFor "cannot have both 'except' and 'except*' on the same 'try'"
  if !areHandlersOrdered handlers then failFor "default 'except:' must be last"
  let others ← if handlers.isEmpty then pure [] else otherwise r lines
  let last ← if ← takeWord? "finally" then block r lines else pure []
  return .attempt body handlers others last

def entered : Reader (Expr × Option Expr) := do
  let e ← r.expression
  if ← takeWord? "as" then
    let target ← starOr r r.bitOr
    if target.isTarget true then return (e, some target) else fail
  else return (e, none)

def orBack? {α : Type} (reader : Reader α) : Reader (Option α) := fun ts =>
  match reader ts with
  | .ok (a, rest) => .ok (some a, rest)
  | .error _ => .ok (none, ts)

def allEntered : Reader (List (Expr × Option Expr)) := do
  let inBrackets? ← orBack? do
    mark "("
    let (items, _) ← commaList startsExpr (entered r) (← entered r)
    mark ")"
    if ← atMark ":" then return items else fail
  inBrackets?.getDM do separated (takeMark? ",") (entered r)

def eachLoop (lines : Reader (List Stmt)) (isAsync : Bool) : Reader Stmt := do
  word "for"
  let target ← targets r
  word "in"
  return .each isAsync target (← starExpressions r) (← block r lines) (← otherwise r lines)

def functionDef (lines : Reader (List Stmt)) (decorators : List Expr) (isAsync : Bool) : Reader Stmt := do
  word "def"
  let n ← name
  mark "("
  let params ← parameters r true
  mark ")"
  return .function n params (← after? (takeMark? "->") r.expression) (← block r lines) decorators isAsync

def classDef (lines : Reader (List Stmt)) (decorators : List Expr) : Reader Stmt := do
  word "class"
  let n ← name
  let args ← if ← takeMark? "(" then arguments r else pure []
  return .classDef n args (← block r lines) decorators

def definition (lines : Reader (List Stmt)) : Reader Stmt := do
  let decorators ← many (after? (takeMark? "@") (named r <* newline))
  if ← atWord "class" then classDef r lines decorators else functionDef r lines decorators (← takeWord? "async")

def withBlock (lines : Reader (List Stmt)) (isAsync : Bool) : Reader Stmt := do
  word "with"
  return .within isAsync (← allEntered r) (← block r lines)

def compound? (lines : Reader (List Stmt)) : Reader (Option Stmt) := do
  if (← atMark "@") || (← atWord "def") || (← atWord "class") then some <$> definition r lines
  else if ← takeWord? "if" then
    let condition ← named r
    return some (.choose condition (← block r lines) (← elseChain r lines (← get)))
  else if ← takeWord? "while" then return some (.loop (← named r) (← block r lines) (← otherwise r lines))
  else if ← atWord "for" then some <$> eachLoop r lines false
  else if ← takeWord? "try" then some <$> attempt r lines
  else if ← atWord "with" then some <$> withBlock r lines false
  else if ← atWord "async" then
    let ⟨.word w, _, _⟩ :: _ := (← get).drop 1 | fail
    if w = "for" || w = "with" then
      advance
      return some (← if w = "for" then eachLoop r lines true else withBlock r lines true)
    some <$> definition r lines
  else return none

def case (lines : Reader (List Stmt)) : Reader Case := do
  if !(← atName "case") then fail
  advance
  return .mk (← casePattern r) (← after? (takeWord? "if") (named r)) (← block r lines)

def subject : Reader Expr := do
  match ← oneOrTuple (starredNamed r) with
  | .starred _ => fail
  | e => return e

def selectHead? : Reader (Option Expr) := orBack? do
  if !(← atName "match") then fail
  advance
  let e ← subject r
  mark ":"
  newline
  return e

def cases (lines : Reader (List Stmt)) : Reader (List Case) := do
  let .indent ← peek | failWith (.indentation "expected an indented block after 'match' statement")
  advance
  let first ← case r lines
  let others ← many do
    let .dedent ← peek | some <$> case r lines
    return none
  advance
  return first :: others

def statement (lines : Reader (List Stmt)) : Reader (List Stmt) := do
  if let some e ← selectHead? r then return [.select e (← cases r lines)]
  let some s ← compound? r lines | simpleLine r
  return [s]

def statements (lines : Reader (List Stmt)) : Reader (List Stmt) := do
  let first ← statement r lines
  let others ← many do
    match ← peek with
    | .dedent | .finish => return none
    | _ => some <$> statement r lines
  return first ++ others.flatten

def lines : Nat → Reader (List Stmt)
  | 0 => fail
  | depth + 1 => fun ts => statements r (lines depth) ts

end Rules

/-! ## Modules -/

def Tokens.later? (ts : Tokens) (line : Nat) : Option ReadError :=
  ts.error?.bind fun (e, precedence) =>
    match precedence with
    | .always => some e
    | .never => none
    | .after opened => if opened < line then some e else none

def Tokens.errorAt (ts : Tokens) (h : Halt) : ReadError :=
  match h.left with
  | [] => ((ts.error?.map (·.1)).or h.error?).getD .plain
  | t :: _ =>
    match h.error?, t.lexeme with
    | none, .indent => .indentation "unexpected indent"
    | none, .dedent => .indentation "unexpected unindent"
    | error?, _ => (ts.later? t.line).getD (error?.getD .plain)

def Tokens.depth (ts : Tokens) : Nat := ts.tokens.length + 1

def Tokens.read {α : Type} (ts : Tokens) (reader : Reader α) : Except ReadError α :=
  let whole : Reader α := do
    let a ← reader
    let .finish ← Reader.peek | Reader.fail
    if (← get).isEmpty && ts.error?.isSome then Reader.fail else return a
  match whole ts.tokens with
  | .ok (a, _) => .ok a
  | .error h => .error (ts.errorAt h)

def readModule (source : Text) : Except ReadError (List Stmt) :=
  let ts := Tokens.ofModule source
  if ts.isTooDeep (.lineStart 0) then .error .exhausted
  else
  let r := Rules.within ts.depth
  let whole : Reader (List Stmt) := do
    let .finish ← Reader.peek | Rules.lines r (indentLimit + 1)
    return []
  ts.read whole

def readExpression (source : Text) : Except ReadError Expr :=
  let ts := Tokens.ofText source
  if ts.isTooDeep { holder := .line, outer := 0 } then .error .exhausted
  else
  let r := Rules.within ts.depth
  ts.read do
    let e ← Rules.expressions r
    let _ ← Reader.many do
      let .newline ← Reader.peek | return none
      Reader.advance
      return some ()
    return e

end Counterpart.Script
