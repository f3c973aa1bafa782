import Counterpart.Default.Expr
import Counterpart.Draft.Gap
import Counterpart.Script.Constant

/-!
Default values of properties. A definition gives them as C++ expressions; those that have a plain
counterpart are taken over, and the others give way to the default of their type with a warning.
-/
namespace Counterpart

structure DefaultWarning where
  given : Text
  type : Text
  used : Text
  deriving DecidableEq, Repr

def DefaultWarning.message (w : DefaultWarning) : Text :=
  Text.concat ["Cannot translate default ", w.given, " of ", w.type, ", using ", w.used]

namespace DefaultExpr

def words : List (Text × DefaultExpr) :=
  [("true", .truth true), ("false", .truth false), ("nullptr", .null), ("NULL", .null)]

def signOf : Text → Text
  | [] => []
  | c :: _ => if c = '-' || c = '+' then [c] else []

def integerMarks : List Text :=
  ["", "u", "U", "ull", "uLL", "ul", "uL", "Ull", "ULL", "Ul", "UL", "ll", "LL", "l", "L",
   "llu", "llU", "LLu", "LLU", "lu", "lU", "Lu", "LU"]

/-- The digits of an integer literal: those after `0x` when there are any, else decimal ones. -/
def integerDigits (t : Text) : Text :=
  let hex := (t.drop 2).takeWhile (·.hexValue?.isSome)
  if (Text.startsWith "0x" t || Text.startsWith "0X" t) && !hex.isEmpty then t.take 2 ++ hex
  else t.takeWhile (·.isDigit)

/-- The sign and digits of a text that is an integer literal with or without marks. -/
def integer? (t : Text) : Option Text :=
  let sign := signOf t
  let body := t.drop sign.length
  let digits := integerDigits body
  if !digits.isEmpty && integerMarks.contains (body.drop digits.length) then some (sign ++ digits)
  else none

def isOctal (digits : Text) : Bool :=
  match digits.drop (signOf digits).length with
  | c :: d :: rest => c = '0' && (d :: rest).all (·.isDigit)
  | _ => false

/-- The expression of an integer literal; digits that are not octal after a leading zero have none. -/
def ofInteger? (digits : Text) : Option DefaultExpr :=
  if isOctal digits then (Numeral.octal? digits).map fun n => .integer (Text.ofInt n)
  else some (.integer digits)

def exponentOf : Text → Text
  | [] => []
  | c :: rest =>
    if c = 'e' || c = 'E' then
      let sign := signOf rest
      let digits := (rest.drop sign.length).takeWhile (·.isDigit)
      if digits.isEmpty then [] else c :: (sign ++ digits)
    else []

def real? (t : Text) : Option Text :=
  let sign := signOf t
  let body := t.drop sign.length
  let whole := body.takeWhile (·.isDigit)
  let rest := body.drop whole.length
  let (point, fraction) : Text × Text :=
    match rest with
    | c :: more => if c = '.' then ([c], more.takeWhile (·.isDigit)) else ([], [])
    | [] => ([], [])
  let exponent := exponentOf (rest.drop (point.length + fraction.length))
  let number := whole ++ point ++ fraction ++ exponent
  let mark := body.drop number.length
  let complete := if point.isEmpty then !whole.isEmpty && !exponent.isEmpty
    else !whole.isEmpty || !fraction.isEmpty
  if complete && (mark = [] || mark = "f" || mark = "F") then some (sign ++ number) else none

def call? (t : Text) : Option (Text × Text) :=
  let name := t.takeWhile fun c => c.isWord || c = CodePoint.ofChar ':'
  let rest := t.drop name.length
  match name, rest, rest.getLast? with
  | c :: _, opening :: inner, some closing =>
    if (c.isAsciiLetter || c = CodePoint.ofChar '_') && opening = CodePoint.ofChar '('
        && closing = CodePoint.ofChar ')' && !inner.isEmpty then
      some (name, inner.dropLast)
    else none
  | _, _, _ => none

def isQuoted (t : Text) : Bool :=
  2 ≤ t.length && t.head? = some (CodePoint.ofChar '"') && t.getLast? = some (CodePoint.ofChar '"')

def arguments (t : Text) : List Text :=
  ((t.splitAt ',').map Text.strip).filter (!·.isEmpty)

def takesIntegers : Hint → Bool
  | .truth | .integer | .real | .any => true
  | _ => false

def takesReals : Hint → Bool
  | .real | .any => true
  | _ => false

inductive Form where
  | plain (value? : Option DefaultExpr)
  | wrapped (inner : Text)
  | fields (pairs : List (Parameter × Text))

def callForm (i : Interface) (cls? : Option ClassDecl) (type inside : Text) : Form :=
  let inner := inside.strip
  if inner.isEmpty then .plain (some (empty (i.hint cls? type)))
  else if Builtin.isBuiltin type then .wrapped inner
  else
    match i.record? type with
    | none => .plain none
    | some record =>
      let args := arguments inner
      if record.attributes.length < args.length then .plain none else .fields (record.attributes.zip args)

def form (i : Interface) (cls? : Option ClassDecl) (type given : Text) : Form :=
  let t := given.strip
  let hint := i.hint cls? type
  match Keyed.get? t words with
  | some word => .plain (some word)
  | none =>
    match integer? t, takesIntegers hint with
    | some digits, true => .plain (ofInteger? digits)
    | _, _ =>
      match real? t, takesReals hint with
      | some digits, true => .plain (some (.real digits))
      | _, _ =>
        if isQuoted t then
          let source := if hint = .bytes then "b" ++ t else t
          .plain (match Script.readConstant source with
            | .error .malformed => none
            | _ => some (.quoted source))
        else
          match call? t with
          | none => .plain none
          | some (name, inside) =>
            if name = Text.afterLast "::" type then callForm i cls? type inside else .plain none

/-- The expression that a literal or a call stands for at a type, if there is one. The fuel bounds the
depth of calls. -/
def literal? (i : Interface) : Nat → Option ClassDecl → Text → Text → Option DefaultExpr
  | 0, _, _, _ => none
  | fuel + 1, cls?, type, given =>
    match form i cls? type given with
    | .plain value? => value?
    | .wrapped inner => literal? i fuel none type inner
    | .fields pairs =>
      (pairs.mapM fun (pair : Parameter × Text) => literal? i fuel none pair.1.type pair.2).map
        (.construct (i.hint cls? type))

/-- What keeps a default from being read at all: an attribute without a type, a constant with a part
that is out of place, or more calls one inside the other than the fuel allows. -/
def obstacle? (i : Interface) : Nat → Option ClassDecl → Text → Text → Option Gap
  | 0, _, _, _ => some .endless
  | fuel + 1, cls?, type, given =>
    match form i cls? type given with
    | .plain (some (.quoted source)) =>
      match Script.readConstant source with
      | .error (.unhashable kind) => some (.unhashable kind)
      | .error .tooLarge => some .tooLarge
      | .error .tooDeep => some .tooDeep
      | .error .unreadable => some .unreadable
      | _ => none
    | .plain _ => none
    | .wrapped inner => obstacle? i fuel none type inner
    | .fields pairs =>
      pairs.foldr (fun (pair : Parameter × Text) later =>
        if pair.1.type = Text.absent then some .symbol
        else
          match obstacle? i fuel none pair.1.type pair.2 with
          | some gap => some gap
          | none => if (literal? i fuel none pair.1.type pair.2).isSome then later else none) none

/-- How many calls can stand one inside the other, by the usual call stack. -/
def callLimit : Nat := 990

end DefaultExpr

def Hint.isPlain : Hint → Bool
  | .named _ => false
  | _ => true

namespace Interface

variable (i : Interface) (cls? : Option ClassDecl) (type given : Text) (limit : Nat := DefaultExpr.callLimit)

def literal? : Option DefaultExpr := DefaultExpr.literal? i limit cls? type given

def obstacle? : Option Gap :=
  let t := given.strip
  match i.enumPlan? cls? type with
  | some p =>
    if t.isEmpty || p.values.any (·.name = Text.afterLast "::" t) then none
    else DefaultExpr.obstacle? i limit none "int" t
  | none =>
    if i.usedEnums.contains type then DefaultExpr.obstacle? i limit none "int" t
    else DefaultExpr.obstacle? i limit cls? type t

def firstMember (hint : Hint) (p : EnumPlan) : DefaultExpr :=
  .member hint p.fallback.unreserved

/-- The expression for a default value, or for none given (an empty text), and a warning if what was
given had to be given up. -/
def default : DefaultExpr × Option DefaultWarning :=
  let t := given.strip
  let hint := i.hint cls? type
  let (empty, found?) : DefaultExpr × Option DefaultExpr :=
    match i.enumPlan? cls? type with
    | some p =>
      let enumerator := Text.afterLast "::" t
      (firstMember hint p,
        if p.values.any (·.name = enumerator) && !t.isEmpty then
          some (.member hint enumerator.unreserved)
        else (i.literal? none "int" t limit).map fun value => .construct hint [value])
    | none =>
      if i.usedEnums.contains type then (.integer "0", i.literal? none "int" t limit)
      else (DefaultExpr.empty hint, i.literal? cls? type t limit)
  if t.isEmpty then (empty, none)
  else
    match found? with
    | some value => (value, none)
    | none => (empty, some ⟨t, type, empty.text⟩)

def attributeDefault (i : Interface) (type : Text) : Text :=
  let value := (i.default none type []).1.text
  if (i.enumPlan? none type).isSome || (i.hint none type).isPlain then
    if value = "[]" then " = field(default_factory=list)" else " = " ++ value
  else " = field(default_factory=lambda: " ++ value ++ ")"

end Interface
end Counterpart
