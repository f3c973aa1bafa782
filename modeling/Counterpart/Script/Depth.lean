import Counterpart.Script.Scope

/-!
How deep expressions nest: a tree goes one level down with every part that stands inside another.
-/
namespace Counterpart.Script

def largest (numbers : List Nat) : Nat := numbers.foldl max 0

def Expr.allParts : Expr → List Expr
  | .lambda params body => params.filterMap Param.default? ++ [body]
  | e => e.parts ++ e.ownParts

def Expr.height : Nat → Expr → Nat
  | 0, _ => 0
  | fuel + 1, e => largest (e.allParts.map (height fuel)) + 1

def heightLimit : Nat := 2969

end Counterpart.Script
