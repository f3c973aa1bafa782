import Counterpart.Script.Scope

/-!
Expressions written out, with the brackets that their operators need. Annotations are kept in this form.
-/
namespace Counterpart.Script

inductive Level where
  | tuple | test | either | both | negation | comparison | bitOr | bitXor | bitAnd | shift | sum | term | factor
  | power | awaiting | atom
  deriving DecidableEq, Repr

def Level.rank (l : Level) : Nat := l.ctorIdx

def BinaryOp.level : BinaryOp → Level
  | .add | .subtract => .sum
  | .multiply | .matrixMultiply | .divide | .floorDivide | .modulo => .term
  | .power => .power
  | .shiftLeft | .shiftRight => .shift
  | .bitAnd => .bitAnd
  | .bitXor => .bitXor
  | .bitOr => .bitOr

def constantText : Literal → Text
  | .null => "None"
  | .truth b => if b then "True" else "False"
  | .integer i => Text.ofInt i
  | .real d => if d.text = "inf" then "1e309" else d.text
  | .complex re im => Literal.complexText re im
  | .text t => Quoted.text t
  | .bytes b => Quoted.bytes b
  | _ => "..."

def bracketed (own needed : Level) (t : Text) : Text :=
  if own.rank < needed.rank then "(" ++ t ++ ")" else t

def Expr.written : Nat → Level → Expr → Text
  | 0, _, _ => []
  | fuel + 1, level, e =>
    let plain := written fuel .test
    let row (items : List Expr) : Text := Text.join ", " (items.map plain)
    match e with
    | .name n => n
    | .constant l => constantText l
    | .tuple [] => "()"
    | .tuple [only] => bracketed .tuple level (plain only ++ ",")
    | .tuple items => bracketed .tuple level (row items)
    | .list items => "[" ++ row items ++ "]"
    | .set items => "\x7b" ++ row items ++ "\x7d"
    | .dict keys values =>
      let entries := (keys.zip values).map fun (key?, value) =>
        match key? with
        | some key => plain key ++ ": " ++ plain value
        | none => "**" ++ written fuel .bitOr value
      Text.concat ["\x7b", Text.join ", " entries, "\x7d"]
    | .all items => bracketed .both level (Text.join " and " (items.map (written fuel .negation)))
    | .any items => bracketed .either level (Text.join " or " (items.map (written fuel .both)))
    | .unary .negate operand => bracketed .negation level ("not " ++ written fuel .negation operand)
    | .unary op operand =>
      let sign : Text := if op = .plus then "+" else if op = .minus then "-" else "~"
      bracketed .factor level (sign ++ written fuel .factor operand)
    | .binary op left right =>
      let tighter : Level := match op.level with
        | .bitOr => .bitXor
        | .bitXor => .bitAnd
        | .bitAnd => .shift
        | .shift => .sum
        | .sum => .term
        | .term => .factor
        | _ => .awaiting
      let (l, r) := if op = .power then (tighter, op.level) else (op.level, tighter)
      bracketed op.level level (Text.concat [written fuel l left, " ", op.mark, " ", written fuel r right])
    | .compare first ops others =>
      let rest := (ops.zip others).map fun (op, other) => Text.concat [" ", op.mark, " ", written fuel .bitOr other]
      bracketed .comparison level (Text.concat (written fuel .bitOr first :: rest))
    | .call callee args =>
      let shown := args.map fun arg =>
        match arg with
        | .positional e => plain e
        | .spread e => "*" ++ written fuel .bitOr e
        | .named n e => n ++ "=" ++ plain e
        | .spreadNamed e => "**" ++ plain e
      Text.concat [written fuel .atom callee, "(", Text.join ", " shown, ")"]
    | .dotted (.constant (.integer i)) n => Text.ofInt i ++ " ." ++ n
    | .dotted owner n => Text.concat [written fuel .atom owner, ".", n]
    | .item owner index => Text.concat [written fuel .atom owner, "[", written fuel .tuple index, "]"]
    | .slice lower? upper? step? =>
      let part (e? : Option Expr) : Text := e?.elim [] plain
      Text.concat [part lower?, ":", part upper?, step?.elim [] fun e => ":" ++ plain e]
    | .starred inner => "*" ++ written fuel .bitOr inner
    | .choice condition yes no =>
      bracketed .test level (Text.concat [written fuel .either yes, " if ", written fuel .either condition, " else ",
        plain no])
    | .await inner => bracketed .awaiting level ("await " ++ written fuel .atom inner)
    | .lambda params body =>
      let names := Text.join ", " (params.map Param.name)
      let gap : Text := if params.isEmpty then [] else " "
      bracketed .test level (Text.concat ["lambda", gap, names, ": ", plain body])
    | .collect _ element _ clauses =>
      let shown := clauses.map fun c =>
        let conditions := c.conditions.map fun e => " if " ++ written fuel .either e
        Text.concat [" for ", written fuel .tuple c.target, " in ", written fuel .either c.source,
          Text.concat conditions]
      Text.concat ["(", plain element, Text.concat shown, ")"]
    | _ => []

end Counterpart.Script
