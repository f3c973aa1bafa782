import Counterpart.Text.Basic

/-!
Regular expressions: what a piece of a text may look like. Parts can be captured, repeated, and looked for
around a place.
-/
namespace Counterpart.Regular

structure Flags where
  ignoreCase : Bool := false
  ascii : Bool := false
  deriving DecidableEq, Repr

inductive Class where
  | digit | space | word
  deriving DecidableEq, Repr

inductive Member where
  | range (first last : CodePoint)
  | ofClass (c : Class) (negated : Bool)
  deriving DecidableEq, Repr

inductive Anchor where
  | textStart | textEnd | lineStart | lineEnd | finalLineEnd | boundary | noBoundary
  deriving DecidableEq, Repr

inductive Greed where
  | greedy | lazy
  deriving DecidableEq, Repr

inductive Expr where
  | empty
  | letters (flags : Flags) (negated : Bool) (members : List Member)
  | any (lines : Bool)
  | sequence (first second : Expr)
  | either (first second : Expr)
  | repeated (body : Expr) (least : Nat) (most? : Option Nat) (greed : Greed)
  | group (number : Nat) (body : Expr)
  /-- The text of a group again, and how long the group is if that is fixed. -/
  | again (flags : Flags) (number : Nat) (size? : Option Nat)
  | anchor (flags : Flags) (a : Anchor)
  | look (ahead negated : Bool) (body : Expr)
  | choice (number : Nat) (yes no : Expr)
  | atomic (body : Expr)
  deriving Repr

def Expr.width? : Expr → Option Nat
  | .empty | .anchor .. | .look .. => some 0
  | .letters .. | .any _ => some 1
  | .sequence a b => do return (← a.width?) + (← b.width?)
  | .either a b | .choice _ a b => do
    let n ← a.width?
    if (← b.width?) = n then some n else none
  | .repeated body least most? _ =>
    if most? = some 0 then some 0
    else do
      let n ← body.width?
      if most? = some least || n = 0 then some (n * least) else none
  | .group _ body | .atomic body => body.width?
  | .again _ _ size? => size?

structure Pattern where
  body : Expr
  groups : Nat

end Counterpart.Regular
