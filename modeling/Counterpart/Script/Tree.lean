import Counterpart.Literal.Basic

/-!
Modules as trees: expressions, and statements made of them.
-/
namespace Counterpart.Script

inductive UnaryOp where
  | plus | minus | invert | negate
  deriving DecidableEq, Repr

inductive BinaryOp where
  | add | subtract | multiply | matrixMultiply | divide | floorDivide | modulo | power
  | shiftLeft | shiftRight | bitAnd | bitXor | bitOr
  deriving DecidableEq, Repr

inductive CompareOp where
  | eq | ne | lt | le | gt | ge | same | notSame | member | notMember
  deriving DecidableEq, Repr

/-- The word in the names of an operator's methods, and the mark of the operator. -/
def BinaryOp.words : BinaryOp → Text × Text
  | .add => ("add", "+")
  | .subtract => ("sub", "-")
  | .multiply => ("mul", "*")
  | .matrixMultiply => ("matmul", "@")
  | .divide => ("truediv", "/")
  | .floorDivide => ("floordiv", "//")
  | .modulo => ("mod", "%")
  | .power => ("pow", "**")
  | .shiftLeft => ("lshift", "<<")
  | .shiftRight => ("rshift", ">>")
  | .bitAnd => ("and", "&")
  | .bitXor => ("xor", "^")
  | .bitOr => ("or", "|")

def BinaryOp.mark (op : BinaryOp) : Text := op.words.2

def BinaryOp.onNumbers : List BinaryOp :=
  [.add, .subtract, .multiply, .divide, .floorDivide, .modulo, .power, .shiftLeft, .shiftRight, .bitAnd, .bitXor, .bitOr]

def CompareOp.mark : CompareOp → Text
  | .eq => "=="
  | .ne => "!="
  | .lt => "<"
  | .le => "<="
  | .gt => ">"
  | .ge => ">="
  | .same => "is"
  | .notSame => "is not"
  | .member => "in"
  | .notMember => "not in"

inductive ParamKind where
  | positionalOnly
  | ordinary
  | rest
  | keywordOnly
  | restNamed
  deriving DecidableEq, Repr

inductive CollectKind where
  | list | set | dict | generator
  deriving DecidableEq, Repr

mutual
inductive Expr where
  | name (n : Text)
  | constant (value : Literal)
  | joined (parts : List Expr)
  /-- A computed part of a text: the letter of its conversion, and how it is set. -/
  | field (value : Expr) (conversion? : Option CodePoint) (spec? : Option Expr)
  | tuple (items : List Expr)
  | list (items : List Expr)
  | set (items : List Expr)
  /-- Keys and values in turn; an entry without a key adds the entries of its value. -/
  | dict (keys : List (Option Expr)) (values : List Expr)
  /-- All of several, or one of several. -/
  | all (items : List Expr)
  | any (items : List Expr)
  | unary (op : UnaryOp) (operand : Expr)
  | binary (op : BinaryOp) (left right : Expr)
  | compare (first : Expr) (ops : List CompareOp) (others : List Expr)
  | call (callee : Expr) (args : List Argument)
  | dotted (owner : Expr) (name : Text)
  | item (owner index : Expr)
  | slice (lower? upper? step? : Option Expr)
  | starred (inner : Expr)
  | choice (condition yes no : Expr)
  | lambda (params : List Param) (body : Expr)
  | bind (name : Text) (value : Expr)
  /-- A comprehension; the second expression is the value of an entry. -/
  | collect (kind : CollectKind) (element : Expr) (value? : Option Expr) (clauses : List Clause)
  | await (inner : Expr)
  | yield (inner? : Option Expr)
  | yieldEach (inner : Expr)

inductive Argument where
  | positional (value : Expr)
  | spread (value : Expr)
  | named (name : Text) (value : Expr)
  | spreadNamed (value : Expr)

structure Clause where
  isAsync : Bool
  target : Expr
  source : Expr
  conditions : List Expr

structure Param where
  kind : ParamKind
  name : Text
  hint? : Option Expr
  default? : Option Expr
end

inductive Pattern where
  | value (e : Expr)
  | single (l : Literal)
  | any (name? : Option Text)
  | named (inner : Pattern) (name : Text)
  | either (options : List Pattern)
  | row (items : List Pattern)
  | rest (name? : Option Text)
  /-- Values for keys, and the entries that are left, which a name may be bound to. -/
  | entries (keys : List Expr) (values : List Pattern) (rest? : Option Text)
  | ofClass (cls : Expr) (items : List Pattern) (names : List Text) (values : List Pattern)

mutual
inductive Stmt where
  | expr (e : Expr)
  | assign (targets : List Expr) (value : Expr)
  | augment (target : Expr) (op : BinaryOp) (value : Expr)
  /-- A target with an annotation; `isPlain` tells a name without brackets. -/
  | annotate (target hint : Expr) (value? : Option Expr) (isPlain : Bool)
  | delete (targets : List Expr)
  | pass
  | stop
  | next
  | give (value? : Option Expr)
  | raise (error? cause? : Option Expr)
  | global (names : List Text)
  | nonlocal (names : List Text)
  | assert (condition : Expr) (message? : Option Expr)
  | load (modules : List (List Text × Option Text))
  /-- Names of a module, and the names they are bound to; no names stand for all. -/
  | loadFrom (level : Nat) (module : List Text) (names : List (Text × Option Text))
  | choose (condition : Expr) (yes no : List Stmt)
  | loop (condition : Expr) (body otherwise : List Stmt)
  | each (isAsync : Bool) (target source : Expr) (body otherwise : List Stmt)
  | attempt (body : List Stmt) (handlers : List Handler) (otherwise last : List Stmt)
  | within (isAsync : Bool) (items : List (Expr × Option Expr)) (body : List Stmt)
  | function (name : Text) (params : List Param) (returns? : Option Expr) (body : List Stmt)
      (decorators : List Expr) (isAsync : Bool)
  | classDef (name : Text) (args : List Argument) (body : List Stmt) (decorators : List Expr)
  | select (subject : Expr) (cases : List Case)

structure Handler where
  isGroup : Bool
  class? : Option Expr
  name? : Option Text
  body : List Stmt

structure Case where
  pattern : Pattern
  guard? : Option Expr
  body : List Stmt
end

end Counterpart.Script
