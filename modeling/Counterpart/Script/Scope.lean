import Counterpart.Script.Pattern

/-!
Which names a function, a class or a module binds. A name that is bound anywhere in a function belongs to
all of it, unless it is declared to be another's. The depth of a tree bounds how far its parts are followed.
-/
namespace Counterpart.Script

def treeDepth : Nat := 100000

def Argument.value : Argument → Expr
  | .positional e | .spread e | .named _ e | .spreadNamed e => e

def Expr.parts : Expr → List Expr
  | .name _ | .constant _ => []
  | .joined parts => parts
  | .field value _ spec? => value :: spec?.toList
  | .tuple items | .list items | .set items | .all items | .any items => items
  | .dict keys values => keys.filterMap id ++ values
  | .unary _ e | .dotted e _ | .starred e | .bind _ e | .await e | .yieldEach e => [e]
  | .binary _ a b | .item a b => [a, b]
  | .compare first _ others => first :: others
  | .call callee args => callee :: args.map Argument.value
  | .slice a b c => a.toList ++ b.toList ++ c.toList
  | .choice c a b => [c, a, b]
  | .lambda params _ => params.filterMap Param.default?
  | .collect _ _ _ clauses => (clauses.take 1).map Clause.source
  | .yield e? => e?.toList

def Expr.ownParts : Expr → List Expr
  | .collect _ element value? clauses =>
    element :: value?.toList ++ (clauses.drop 1).map Clause.source ++
      clauses.flatMap fun c => c.target :: c.conditions
  | _ => []

def Expr.targetNames : Nat → Expr → List Text
  | 0, _ => []
  | fuel + 1, e =>
    match e with
    | .name n => [n]
    | .tuple items | .list items => items.flatMap (targetNames fuel)
    | .starred inner => targetNames fuel inner
    | _ => []

def Expr.boundNames : Nat → Expr → List Text
  | 0, _ => []
  | fuel + 1, e =>
    let here := match e with
      | .bind n _ => [n]
      | _ => []
    here ++ (e.parts ++ e.ownParts).flatMap (boundNames fuel)

structure Names where
  bound : List Text := []
  global : List Text := []
  nonlocal : List Text := []
  deriving DecidableEq, Repr

namespace Names

def union (a b : Names) : Names := ⟨a.bound ++ b.bound, a.global ++ b.global, a.nonlocal ++ b.nonlocal⟩

def unions (parts : List Names) : Names := parts.foldr union {}

def own (n : Names) : List Text :=
  n.bound.eraseDups.filter fun name => !n.global.contains name && !n.nonlocal.contains name

end Names

def Stmt.exprs : Stmt → List Expr
  | .expr e => [e]
  | .assign targets value => value :: targets
  | .augment target _ value => [target, value]
  | .annotate target _ value? _ => target :: value?.toList
  | .delete targets => targets
  | .give value? => value?.toList
  | .raise error? cause? => error?.toList ++ cause?.toList
  | .assert condition message? => condition :: message?.toList
  | .choose condition _ _ | .loop condition _ _ => [condition]
  | .each _ target source _ _ => [target, source]
  | .attempt _ handlers _ _ => handlers.filterMap Handler.class?
  | .within _ items _ => items.flatMap fun (e, target?) => e :: target?.toList
  | .function _ params _ _ decorators _ => decorators ++ params.filterMap Param.default?
  | .classDef _ args _ decorators => decorators ++ args.map Argument.value
  | .select subject cases => subject :: cases.flatMap fun c => c.pattern.exprs ++ c.guard?.toList
  | _ => []

def Stmt.blocks : Stmt → List (List Stmt)
  | .choose _ body others | .loop _ body others | .each _ _ _ body others => [body, others]
  | .attempt body handlers others last => [body] ++ handlers.map Handler.body ++ [others, last]
  | .within _ _ body => [body]
  | .select _ cases => cases.map Case.body
  | _ => []

def Stmt.targets : Stmt → List Expr
  | .assign targets _ | .delete targets => targets
  | .augment target _ _ | .each _ target _ _ _ => [target]
  | .within _ items _ => items.filterMap (·.2)
  | _ => []

def Stmt.targetNames : Stmt → List Text
  | .annotate (.name n) _ _ true => [n]
  | .attempt _ handlers _ _ => handlers.filterMap Handler.name?
  | .function name .. | .classDef name .. => [name]
  | .load modules => modules.map fun (path, other?) => other?.getD (path.headD [])
  | .loadFrom _ _ names => names.map fun (name, other?) => other?.getD name
  | .select _ cases => cases.flatMap fun c => c.pattern.names
  | s => s.targets.flatMap (Expr.targetNames treeDepth)

/-- The names of a statement and of its blocks. A target with an annotation in brackets is bound if it is given
a value. -/
def Stmt.names : Nat → Stmt → Names
  | 0, _ => {}
  | fuel + 1, s =>
    let declared : Names := match s with
      | .global names => { global := names }
      | .nonlocal names => { nonlocal := names }
      | .annotate (.name n) _ (some _) false => { bound := [n] }
      | _ => {}
    let here : Names := { bound := s.targetNames ++ s.exprs.flatMap (Expr.boundNames treeDepth) }
    (declared.union here).union (Names.unions (s.blocks.flatten.map (Stmt.names fuel)))

def namesOf (body : List Stmt) : Names := Names.unions (body.map (Stmt.names treeDepth))

end Counterpart.Script
