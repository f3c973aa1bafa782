import Counterpart.Script.Fields
import Counterpart.Script.Tree

/-!
Reading expressions. Every rule takes the rules it nests, so that reading goes down by one level with each
bracket, sign or lambda; `Rules` are those that anything may nest.
-/
namespace Counterpart.Script

/-- Where reading stopped, and why, if there is more to say than that. -/
structure Halt where
  left : List Token
  error? : Option ReadError := none

abbrev Reader (α : Type) := StateT (List Token) (Except Halt) α

namespace Reader

variable {α : Type}

def fail : Reader α := do throw { left := ← get }

def failWith (e : ReadError) : Reader α := do throw { left := ← get, error? := some e }

def failFor (message : Text) : Reader α := failWith (.grammar message)

def peek : Reader Lexeme := do
  let t :: _ ← get | return .finish
  return t.lexeme

def advance : Reader Unit := modify (·.drop 1)

def atMark (mark : Text) : Reader Bool := do
  let .mark t ← peek | return false
  return t = mark

def atWord (word : Text) : Reader Bool := do
  let .word t ← peek | return false
  return t = word

def atName (n : Text) : Reader Bool := do
  let .name t ← peek | return false
  return t = n

def taken (isHere : Bool) : Reader Bool := do
  if isHere then advance
  return isHere

def takeMark? (mark : Text) : Reader Bool := do taken (← atMark mark)

def takeWord? (word : Text) : Reader Bool := do taken (← atWord word)

def after? (start : Reader Bool) (item : Reader α) : Reader (Option α) := do
  if ← start then some <$> item else return none

def mark (t : Text) : Reader Unit := do if !(← takeMark? t) then fail

def word (t : Text) : Reader Unit := do if !(← takeWord? t) then fail

def name : Reader Text := do
  let .name t ← peek | fail
  advance
  return t

def newline : Reader Unit := do
  let .newline ← peek | fail
  advance

def isBefore (t : Text) : Reader Bool := do
  let ⟨.name _, _, _⟩ :: ⟨.mark m, _, _⟩ :: _ ← get | return false
  return m = t

def nameBefore? (t : Text) : Reader (Option Text) := do
  let ⟨.name n, _, _⟩ :: ⟨.mark m, _, _⟩ :: rest ← get | return none
  if m = t then
    set rest
    return some n
  return none

def manyOver (next? : Reader (Option α)) : List Token → Reader (List α)
  | [] => do return (← next?).toList
  | _ :: left => do
    let some a ← next? | return []
    return a :: (← manyOver next? left)

def many (next? : Reader (Option α)) : Reader (List α) := do manyOver next? (← get)

def separated (isNext : Reader Bool) (item : Reader α) : Reader (List α) := do
  return (← item) :: (← many (after? isNext item))

def growOver (step : α → Reader (Option α)) : List Token → α → Reader α
  | [], a => do return (← step a).getD a
  | _ :: left, a => do
    let some b ← step a | return a
    growOver step left b

def grow (a : α) (step : α → Reader (Option α)) : Reader α := do growOver step (← get) a

def commaList (canStart : Lexeme → Bool) (item : Reader α) (first : α) : Reader (List α × Bool) := do
  let (items, comma) ← grow ([first], false) fun (items, comma) => do
    if comma then return none
    if !(← takeMark? ",") then return none
    if canStart (← peek) then return some ((← item) :: items, false)
    return some (items, true)
  return (items.reverse, comma)

end Reader

open Reader

structure Rules where
  expression : Reader Expr
  disjunction : Reader Expr
  inversion : Reader Expr
  bitOr : Reader Expr
  factor : Reader Expr

def startMarks : List Text := ["(", "[", "\x7b", "-", "+", "~", "..."]

def startWords : List Text := ["not", "None", "True", "False", "lambda", "await"]

def startsExpr : Lexeme → Bool
  | .name _ | .number _ | .quotation .. => true
  | .mark t => startMarks.contains t
  | .word t => startWords.contains t
  | _ => false

def startsExprOr (marks : List Text) : Lexeme → Bool
  | .mark t => marks.contains t || startMarks.contains t
  | l => startsExpr l

def startsStarred : Lexeme → Bool := startsExprOr ["*"]

/-! ## Targets -/

def Expr.isSingleTarget : Expr → Bool
  | .name _ | .dotted .. | .item .. => true
  | _ => false

mutual
def Expr.isTarget (mayStar : Bool) : Expr → Bool
  | .starred inner => mayStar && inner.isTarget mayStar
  | .tuple items | .list items => areTargets mayStar items
  | e => e.isSingleTarget

def areTargets (mayStar : Bool) : List Expr → Bool
  | [] => true
  | e :: rest => e.isTarget mayStar && areTargets mayStar rest
end

namespace Rules
variable (r : Rules)

/-! ## Constants -/

def quotedValue (marks : QuoteMarks) (body : Text) : Except ReadError Literal :=
  if marks.inBytes && body.any (128 ≤ ·.val) then .error (.grammar "bytes can only contain ASCII literal characters")
  else
    match if marks.raw then some body else Literal.unescape marks.inBytes (body.length + 1) body with
    | some value => .ok (if marks.inBytes then .bytes (value.map fun c => UInt8.ofNat c.val) else .text value)
    | none => .error ((Literal.unescapeFault? marks.inBytes 0 body).elim .plain .grammar)

def inner (t : Text) : Reader Expr := do
  let ts := Tokens.ofText ("(" ++ t ++ ")")
  match ts.error? with
  | some (e, _) => failWith e
  | none =>
    let outside ← get
    set ts.tokens
    let e ← r.expression
    let .newline ← peek | fail
    set outside
    return e

def lift : Except ReadError α → Reader α
  | .ok a => return a
  | .error e => failWith e

def formattedParts (raw : Bool) : Nat → List Piece → Reader (List Expr)
  | 0, _ => fail
  | _, [] => return []
  | fuel + 1, .plain escaped :: more => do
    return .constant (← lift (quotedValue { raw } escaped)) :: (← formattedParts raw fuel more)
  | fuel + 1, .field source shown? conversion? spec? :: more => do
    let e ← inner r source
    let spec? ← match spec? with
      | none => pure none
      | some parts => do pure (some (Expr.joined (← formattedParts raw fuel parts)))
    let shown := shown?.toList.map fun t => Expr.constant (.text t)
    let conversion? :=
      if shown?.isSome && conversion?.isNone && spec?.isNone then some (CodePoint.ofChar 'r') else conversion?
    return shown ++ .field e conversion? spec? :: (← formattedParts raw fuel more)

def quotation (marks : QuoteMarks) (body : Text) : Reader Expr := do
  if marks.formatted then
    let fields := Fields.ofBody marks.raw body
    let some message := fields.fault? | return .joined (← formattedParts r marks.raw (body.length + 1) fields.pieces)
    failFor message
  .constant <$> lift (quotedValue marks body)

def joinQuoted : Expr → Expr → Reader Expr
  | .constant (.text a), .constant (.text b) => return .constant (.text (a ++ b))
  | .constant (.bytes a), .constant (.bytes b) => return .constant (.bytes (a ++ b))
  | .joined a, .joined b => return .joined (a ++ b)
  | .joined a, .constant (.text b) => return .joined (a ++ [.constant (.text b)])
  | .constant (.text a), .joined b => return .joined (.constant (.text a) :: b)
  | _, _ => failFor "cannot mix bytes and nonbytes literals"

def quotations : Reader Expr := do
  let next? : Reader (Option Expr) := do
    let .quotation marks body ← peek | return none
    let e ← quotation r marks body
    advance
    return some e
  let first :: others ← many next? | fail
  others.foldlM joinQuoted first

/-! ## Brackets -/

def named : Reader Expr := do
  let some n ← nameBefore? ":=" | r.expression
  return .bind n (← r.expression)

def starOr (item : Reader Expr) : Reader Expr := do if ← takeMark? "*" then .starred <$> r.bitOr else item

def starred : Reader Expr := starOr r r.expression

def starredNamed : Reader Expr := starOr r (named r)

def tupled : List Expr × Bool → Expr
  | ([e], false) => e
  | (items, _) => .tuple items

def oneOrTuple (item : Reader Expr) : Reader Expr := do return tupled (← commaList startsStarred item (← item))

def starExpressions : Reader Expr := oneOrTuple (starred r)

def expressions : Reader Expr := oneOrTuple r.expression

def yielded : Reader Expr := do
  word "yield"
  if ← takeWord? "from" then .yieldEach <$> r.expression
  else return .yield (← after? (startsStarred <$> peek) (starExpressions r))

def targets : Reader Expr := do
  let e ← oneOrTuple (starOr r r.bitOr)
  if e.isTarget true then return e else fail

def clause? : Reader (Option Clause) := do
  let isAsync ← takeWord? "async"
  if isAsync || (← atWord "for") then
    word "for"
    let target ← targets r
    word "in"
    return some (.mk isAsync target (← r.disjunction) (← many (after? (takeWord? "if") r.disjunction)))
  return none

def clauses : Reader (List Clause) := many (clause? r)

def collected? (close : Text) (kind : CollectKind) (first : Expr) (value? : Option Expr) : Reader (Option Expr) := do
  match first, ← clauses r with
  | _, [] => return none
  | .starred _, _ => failFor "iterable unpacking cannot be used in comprehension"
  | _, found =>
    mark close
    return some (.collect kind first value? found)

def round : Reader Expr := do
  if ← takeMark? ")" then return .tuple []
  if ← atWord "yield" then
    let e ← yielded r
    mark ")"
    return e
  let first ← starredNamed r
  if let some e ← collected? r ")" .generator first none then return e
  let found ← commaList startsStarred (starredNamed r) first
  mark ")"
  match found with
  | ([.starred _], false) => failFor "cannot use starred expression here"
  | found => return tupled found

def square : Reader Expr := do
  if ← takeMark? "]" then return .list []
  let first ← starredNamed r
  if let some e ← collected? r "]" .list first none then return e
  let (items, _) ← commaList startsStarred (starredNamed r) first
  mark "]"
  return .list items

def entry : Reader (Option Expr × Expr) := do
  if ← takeMark? "**" then return (none, ← r.bitOr)
  let key ← r.expression
  mark ":"
  return (some key, ← r.expression)

def entries (first : Option Expr × Expr) : Reader Expr := do
  let (all, _) ← commaList (startsExprOr ["**"]) (entry r) first
  mark "\x7d"
  return .dict (all.map (·.1)) (all.map (·.2))

def curly : Reader Expr := do
  if ← takeMark? "\x7d" then return .dict [] []
  if ← atMark "**" then entries r (← entry r)
  else
    let isSpread ← atMark "*"
    let isBound ← isBefore ":="
    let first ← starredNamed r
    if !isSpread && !isBound && (← takeMark? ":") then
      let value ← r.expression
      if let some e ← collected? r "\x7d" .dict first (some value) then return e
      entries r (some first, value)
    else
      if let some e ← collected? r "\x7d" .set first none then return e
      let (items, _) ← commaList startsStarred (starredNamed r) first
      mark "\x7d"
      return .set items

def atom : Reader Expr := do
  match ← peek with
  | .name n =>
    advance
    return .name n
  | .number value =>
    advance
    return .constant value
  | .quotation .. => quotations r
  | _ =>
    if ← takeMark? "(" then round r
    else if ← takeMark? "[" then square r
    else if ← takeMark? "\x7b" then curly r
    else if ← takeMark? "..." then return .constant .ellipsis
    else if ← takeWord? "None" then return .constant .null
    else if ← takeWord? "True" then return .constant (.truth true)
    else if ← takeWord? "False" then return .constant (.truth false) else fail

/-! ## Calls and items -/

def argument : Reader Argument := do
  if ← takeMark? "*" then .spread <$> r.expression
  else if ← takeMark? "**" then .spreadNamed <$> r.expression
  else
    let some n ← nameBefore? "=" | .positional <$> named r
    return .named n (← r.expression)

/-- The order of arguments is right: positional ones first, and nothing but named ones after named ones
that are spread. -/
def areOrdered (named spread : Bool) : List Argument → Bool
  | [] => true
  | .positional _ :: rest => !named && !spread && areOrdered named spread rest
  | .spread _ :: rest => !spread && areOrdered named spread rest
  | .named .. :: rest => areOrdered true spread rest
  | .spreadNamed _ :: rest => areOrdered named true rest

def arguments : Reader (List Argument) := do
  if ← takeMark? ")" then return []
  let first ← argument r
  let found ← clauses r
  match first, found with
  | .positional e, _ :: _ =>
    mark ")"
    return [.positional (.collect .generator e none found)]
  | _, _ :: _ => fail
  | _, [] =>
    let (items, _) ← commaList (startsExprOr ["*", "**"]) (argument r) first
    if !areOrdered false false items then failFor "positional argument follows keyword argument"
    mark ")"
    return items

def bound? : Reader (Option Expr) := after? (startsExpr <$> peek) r.expression

def index : Reader Expr := do
  let sliced (lower? : Option Expr) : Reader Expr := do
    let upper? ← bound? r
    let step? ← if ← takeMark? ":" then bound? r else pure none
    return .slice lower? upper? step?
  if ← takeMark? ":" then sliced none
  else
    match ← starredNamed r with
    | .starred e => return .starred e
    | .bind n e => return .bind n e
    | e => if ← takeMark? ":" then sliced (some e) else return e

def indices : Reader Expr := do
  let found ← commaList (startsExprOr [":", "*"]) (index r) (← index r)
  mark "]"
  match found with
  | ([.starred e], false) => return .tuple [.starred e]
  | found => return tupled found

def trailer? (e : Expr) : Reader (Option Expr) := do
  if ← takeMark? "." then return some (.dotted e (← name))
  if ← takeMark? "(" then return some (.call e (← arguments r))
  if ← takeMark? "[" then return some (.item e (← indices r))
  return none

def primary : Reader Expr := do
  let isAwaited ← takeWord? "await"
  let e ← grow (← atom r) (trailer? r)
  return if isAwaited then .await e else e

/-! ## Operators -/

def power : Reader Expr := do
  let base ← primary r
  if ← takeMark? "**" then return .binary .power base (← r.factor) else return base

def signed : Reader Expr := do
  if ← takeMark? "-" then return .unary .minus (← r.factor)
  if ← takeMark? "+" then return .unary .plus (← r.factor)
  if ← takeMark? "~" then return .unary .invert (← r.factor)
  power r

def levels : List (List BinaryOp) :=
  [[.multiply, .divide, .floorDivide, .modulo, .matrixMultiply], [.add, .subtract], [.shiftLeft, .shiftRight],
   [.bitAnd], [.bitXor], [.bitOr]]

def chain (operand : Reader Expr) (ops : List BinaryOp) : Reader Expr := do
  grow (← operand) fun left => do
    let .mark t ← peek | return none
    let some op := ops.find? (·.mark = t) | return none
    advance
    return some (.binary op left (← operand))

def operation : Reader Expr := levels.foldl chain (signed r)

def compareOp? : Reader (Option CompareOp) := do
  match ← peek with
  | .mark t =>
    let op? := ([.eq, .ne, .lt, .le, .gt, .ge] : List CompareOp).find? (·.mark = t)
    if op?.isSome then advance
    return op?
  | .word t =>
    if t = "in" then
      advance
      return some .member
    if t = "is" then
      advance
      return some (if ← takeWord? "not" then .notSame else .same)
    if t = "not" then
      let ⟨.word w, _, _⟩ :: rest := (← get).drop 1 | return none
      if w = "in" then
        set rest
        return some .notMember
      return none
    else return none
  | _ => return none

def comparison : Reader Expr := do
  let first ← operation r
  let others ← many do
    let some op ← compareOp? | return none
    return some (op, ← operation r)
  if others.isEmpty then return first else return .compare first (others.map (·.1)) (others.map (·.2))

def denial : Reader Expr := do
  if ← takeWord? "not" then return .unary .negate (← r.inversion) else comparison r

def wordChain (operand : Reader Expr) (t : Text) (build : List Expr → Expr) : Reader Expr := do
  match ← separated (takeWord? t) operand with
  | [e] => return e
  | found => return build found

def alternatives : Reader Expr := wordChain (wordChain (denial r) "and" .all) "or" .any

/-! ## Functions -/

def parameter (annotated : Bool) (kind : ParamKind) (mayDefault : Bool) : Reader Param := do
  let n ← name
  let annotation? ← after? (pure annotated <&&> takeMark? ":") (if kind = .rest then starred r else r.expression)
  return .mk kind n annotation? (← after? (pure mayDefault <&&> takeMark? "=") r.expression)

structure ParamState where
  params : List Param := []
  named : Bool := false
  bare : Bool := false
  slash : Bool := false
  isFull : Bool := false
  open' : Bool := false

def parameterStep? (annotated : Bool) (s : ParamState) : Reader (Option ParamState) := do
  if s.open' then return none
  let close (s : ParamState) : Reader (Option ParamState) := do return some { s with open' := !(← takeMark? ",") }
  match ← peek with
  | .mark t =>
    if s.isFull then if t = ")" || t = ":" then return none else fail
    else if t = "/" then
      if s.slash || s.named || s.params.isEmpty then fail
      advance
      let positional := s.params.map fun p => Param.mk .positionalOnly p.name p.hint? p.default?
      close { s with params := positional, slash := true }
    else if t = "*" then
      if s.named then fail
      advance
      if ← takeMark? "," then return some { s with named := true, bare := true }
      let p ← parameter r annotated .rest false
      close { s with params := s.params ++ [p], named := true }
    else if t = "**" then
      if s.bare then failFor "named arguments must follow bare *"
      advance
      let p ← parameter r annotated .restNamed false
      close { s with params := s.params ++ [p], isFull := true }
    else return none
  | .name _ =>
    if s.isFull then fail
    let p ← parameter r annotated (if s.named then .keywordOnly else .ordinary) true
    if !s.named && p.default?.isNone && s.params.any (·.default?.isSome) then
      failFor "non-default argument follows default argument"
    close { s with params := s.params ++ [p], bare := false }
  | _ => return none

def parameters (annotated : Bool) : Reader (List Param) := do
  let s ← grow {} (parameterStep? r annotated)
  if s.bare then failFor "named arguments must follow bare *"
  return s.params

def lambda : Reader Expr := do
  word "lambda"
  let params ← parameters r false
  mark ":"
  return .lambda params (← r.expression)

def conditional : Reader Expr := do
  if ← atWord "lambda" then lambda r
  else
    let e ← alternatives r
    if ← takeWord? "if" then
      let condition ← alternatives r
      word "else"
      return .choice condition e (← r.expression)
    return e

def within : Nat → Rules
  | 0 => ⟨fail, fail, fail, fail, fail⟩
  | depth + 1 =>
    { expression := fun ts => conditional (within depth) ts
      disjunction := fun ts => alternatives (within depth) ts
      inversion := fun ts => denial (within depth) ts
      bitOr := fun ts => operation (within depth) ts
      factor := fun ts => signed (within depth) ts }

end Rules
end Counterpart.Script
