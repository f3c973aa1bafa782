import Counterpart.Script.Reader

/-!
Reading patterns, and which names they bind. Reading goes down by one level with each bracket.
-/
namespace Counterpart.Script

open Reader

namespace Pattern

mutual
def names : Pattern → List Text
  | .value _ | .single _ => []
  | .any name? | .rest name? => name?.toList
  | .named inner name => inner.names ++ [name]
  | .either options => namesOfFirst options
  | .row items => namesOfAll items
  | .entries _ values rest? => namesOfAll values ++ rest?.toList
  | .ofClass _ items _ values => namesOfAll items ++ namesOfAll values

def namesOfAll : List Pattern → List Text
  | [] => []
  | p :: others => p.names ++ namesOfAll others

def namesOfFirst : List Pattern → List Text
  | [] => []
  | p :: _ => p.names
end

mutual
def exprs : Pattern → List Expr
  | .value e => [e]
  | .single _ | .any _ | .rest _ => []
  | .named inner _ => inner.exprs
  | .either options => exprsOfAll options
  | .row items => exprsOfAll items
  | .entries keys values _ => keys ++ exprsOfAll values
  | .ofClass cls items _ values => cls :: exprsOfAll items ++ exprsOfAll values

def exprsOfAll : List Pattern → List Expr
  | [] => []
  | p :: others => p.exprs ++ exprsOfAll others
end

def fitsAll : Pattern → Bool
  | .any _ => true
  | .named inner _ => inner.fitsAll
  | .either options => anyFitsAll options
  | _ => false
where
  anyFitsAll : List Pattern → Bool
    | [] => false
    | p :: others => p.fitsAll || anyFitsAll others

def isRest : Pattern → Bool
  | .rest _ => true
  | _ => false

def isSameKey : Literal → Literal → Bool
  | .text s, .text t => s = t
  | .bytes s, .bytes t => s = t
  | .integer i, .integer j => i = j
  | .integer i, .truth b | .truth b, .integer i => i = (if b then 1 else 0)
  | .truth a, .truth b => a = b
  | .null, .null => true
  | .real a, .real b => a.bits = b.bits
  | _, _ => false

def areKeysDistinct : List Expr → Bool
  | [] => true
  | .constant l :: others =>
    !others.any (fun
      | .constant k => isSameKey k l
      | _ => false) && areKeysDistinct others
  | _ :: others => areKeysDistinct others

mutual
/-- The parts of a pattern go together: alternatives bind the same names and only the last fits everything, one
part at most takes what is left, and attributes are named once. -/
def isWellMade : Pattern → Bool
  | .value _ | .single _ | .any _ | .rest _ => true
  | .named inner _ => inner.isWellMade
  | .either options =>
    areWellMade options && !(options.dropLast.any fitsAll) &&
      options.all fun p => p.names.all (namesOfFirst options).contains && (namesOfFirst options).all p.names.contains
  | .row items => areWellMade items && decide ((items.filter isRest).length ≤ 1)
  | .entries keys values _ => areWellMade values && areKeysDistinct keys
  | .ofClass _ items names values => areWellMade items && areWellMade values && decide names.Nodup

def areWellMade : List Pattern → Bool
  | [] => true
  | p :: others => p.isWellMade && areWellMade others
end

def isValid (p : Pattern) : Bool := p.isWellMade && decide p.names.Nodup

end Pattern

namespace Rules
variable (r : Rules)

def blankName : Text := "_"

def bindsName : Reader Bool := do
  match ← get with
  | ⟨.name _, _, _⟩ :: ⟨.mark m, _, _⟩ :: _ => return m ≠ "." && m ≠ "(" && m ≠ "="
  | ⟨.name _, _, _⟩ :: _ => return true
  | _ => return false

def numberPattern : Reader Expr := do
  let number : Reader Expr := do
    let .number value ← peek | fail
    advance
    return .constant value
  let first ← if ← takeMark? "-" then pure (.unary .minus (← number)) else number
  let isImaginary (e : Expr) : Bool := e matches .constant (.complex ..)
  let op? : Option BinaryOp ← if ← takeMark? "+" then pure (some .add)
    else do if ← takeMark? "-" then pure (some .subtract) else pure none
  let some op := op? | return first
  let second ← number
  if isImaginary second && !isImaginary first then return .binary op first second else fail

def attributePath : Reader Expr := do
  grow (.name (← name)) fun e => after? (takeMark? ".") do return .dotted e (← name)

def constantPattern? : Reader (Option Pattern) := do
  match ← peek with
  | .number _ => return some (.value (← numberPattern))
  | .mark t => if t = "-" then return some (.value (← numberPattern)) else return none
  | .quotation .. =>
    let .constant l ← quotations r | failFor "patterns may only match literals and attribute lookups"
    return some (.value (.constant l))
  | .word _ =>
    let .constant l ← atom r | fail
    return some (.single l)
  | _ => return none

def keyPattern : Reader Expr := do
  match ← constantPattern? r with
  | some (.value e) => return e
  | some (.single l) => return .constant l
  | _ =>
    match ← attributePath with
    | .name _ => fail
    | e => return e

def startsPattern : Lexeme → Bool
  | .mark t => t = "*" || t = "-" || t = "(" || t = "[" || t = "\x7b"
  | .word t => t = "None" || t = "True" || t = "False"
  | .name _ | .number _ | .quotation .. => true
  | _ => false

def unlessBlank (n : Text) : Option Text := if n = blankName then none else some n

def rowPart (pattern : Reader Pattern) : Reader Pattern := do
  if ← takeMark? "*" then return .rest (unlessBlank (← name)) else pattern

def rowPattern (pattern : Reader Pattern) (close : Text) : Reader Pattern := do
  if ← takeMark? close then return .row []
  let (items, comma) ← commaList startsPattern (rowPart pattern) (← rowPart pattern)
  mark close
  match items with
  | [p] => if close = ")" && !comma then (if p.isRest then fail else return p) else return .row [p]
  | items => return .row items

def entryPattern (pattern : Reader Pattern) : Reader (Option Expr × Pattern) := do
  if ← takeMark? "**" then
    let n ← name
    if n = blankName then fail else return (none, .any (some n))
  else
    let key ← keyPattern r
    mark ":"
    return (some key, ← pattern)

def entriesPattern (pattern : Reader Pattern) : Reader Pattern := do
  if ← takeMark? "\x7d" then return .entries [] [] none
  let starts (l : Lexeme) : Bool := startsPattern l || l matches .mark _
  let isEnd : Lexeme → Bool
    | .mark t => t = "\x7d"
    | _ => false
  let (items, _) ← commaList (fun l => starts l && !isEnd l) (entryPattern r pattern) (← entryPattern r pattern)
  mark "\x7d"
  let rest? := match items.getLast? with
    | some (none, .any name?) => name?
    | _ => none
  let entries := if rest?.isSome then items.dropLast else items
  if entries.any (·.1.isNone) then fail
  return .entries (entries.filterMap (·.1)) (entries.map (·.2)) rest?

def classPattern (pattern : Reader Pattern) (cls : Expr) : Reader Pattern := do
  if ← takeMark? ")" then return .ofClass cls [] [] []
  let part : Reader (Option Text × Pattern) := do return ((← nameBefore? "="), ← pattern)
  let (items, _) ← commaList startsPattern part (← part)
  mark ")"
  let placed := items.takeWhile (·.1.isNone)
  let named := items.drop placed.length
  if named.any (·.1.isNone) then failFor "positional patterns follow keyword patterns"
  return .ofClass cls (placed.map (·.2)) (named.filterMap (·.1)) (named.map (·.2))

def closedPattern (pattern : Reader Pattern) : Reader Pattern := do
  if let some p ← constantPattern? r then return p
  if ← takeMark? "(" then rowPattern pattern ")"
  else if ← takeMark? "[" then rowPattern pattern "]"
  else if ← takeMark? "\x7b" then entriesPattern r pattern
  else if ← bindsName then return .any (unlessBlank (← name))
  else
    let e ← attributePath
    if ← takeMark? "(" then classPattern pattern e
    else
      match e with
      | .name _ => fail
      | e => return .value e

def patternOf (closed : Reader Pattern) : Reader Pattern := do
  let p : Pattern ← match ← separated (takeMark? "|") closed with
    | [p] => pure p
    | options => pure (.either options)
  if ← takeWord? "as" then
    let n ← name
    if n = blankName then fail else return .named p n
  else return p

def patternWithin : Nat → Reader Pattern
  | 0 => fail
  | depth + 1 => fun ts => patternOf (closedPattern r (patternWithin depth)) ts

def casePattern : Reader Pattern := do
  let pattern := patternWithin r (← get).length
  let (items, comma) ← commaList startsPattern (rowPart pattern) (← rowPart pattern)
  match items with
  | [p] => if comma then return .row [p] else if p.isRest then fail else return p
  | items => return .row items

end Rules
end Counterpart.Script
