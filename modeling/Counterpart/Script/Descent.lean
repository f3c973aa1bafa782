import Counterpart.Script.Token

/-!
How many steps down reading takes. A sign takes a step and a bracket takes many, so that a text that nests too deep
cannot be read at all. The steps can be told from the tokens alone, and those up to an error count.
-/
namespace Counterpart.Script

inductive Holder where
  | line
  | group
  | items
  | call
  | subscript
  deriving DecidableEq, Repr

def Holder.steps : Holder → Nat → Nat
  | .line, before => if before = 0 then 0 else 2
  | .group, before => if before = 0 then 28 else if before = 1 then 30 else 31
  | .items, before => if before = 0 then 29 else 30
  | .call, before => if before = 0 then 24 else 28
  | .subscript, before => if before = 0 then 24 else 27

structure Rung where
  holder : Holder
  outer : Nat
  /-- The steps that a bracket takes less because it could belong to a target. -/
  saved : Nat := 0
  before : Nat := 0
  loose : Nat := 0
  /-- The steps for negations and for what they and the words between conditions bind. -/
  middle : Nat := 0
  tight : Nat := 0
  functions : Nat := 0

namespace Rung

def depth (s : Rung) : Nat := s.outer + s.holder.steps s.before + s.loose + s.middle + s.tight

def lineStart (blocks : Nat) : Rung := { holder := .line, outer := 6 + 7 * blocks, saved := 19 }

def fresh (s : Rung) : Rung := { s with saved := 0, loose := 0, middle := 0, tight := 0 }

def enter (s : Rung) (holder : Holder) : Rung := { holder, outer := s.depth - s.saved }

def word (s : Rung) (w : Text) : Rung :=
  let s := { s with saved := 0 }
  if w = "not" then { s with middle := s.middle + 1 }
  else if w = "lambda" then { s with loose := s.loose + 2, functions := s.functions + 1 }
  else if w = "else" then { s with loose := s.loose + 1, middle := 0, tight := 0 }
  else if w = "and" || w = "or" then { s with middle := 2, tight := 0 } else { s with tight := 0 }

def mark (s : Rung) (follows : Bool) (m : Text) : Rung :=
  if m = "," then if s.functions = 0 then { s.fresh with before := s.before + 1 } else s
  else if m = ":" then if s.functions = 0 then s.fresh else { s with functions := s.functions - 1 }
  else if m = "=" && s.holder = .line then
    if s.saved = 0 then { s.fresh with outer := s.outer + 3 } else { s.fresh with outer := s.outer + 2, saved := 18 }
  else if m = "=" && s.holder = .call then { s.fresh with loose := if s.before = 0 then 3 else 0 }
  else if m = "." then s
  else if m = "**" && follows then { s with saved := 0, tight := s.tight + 2 }
  else if follows then { s with saved := 0, tight := 0 }
  else if m = "-" || m = "+" || m = "~" then { s with saved := 0, tight := s.tight + 1 } else s

end Rung

structure Descent where
  rung : Rung
  around : List Rung := []
  follows : Bool := false
  blocks : Nat := 0
  deepest : Nat := 0

namespace Descent

def reach (d : Descent) (more : Nat) : Descent := { d with deepest := max d.deepest (d.rung.depth + more) }

def line (d : Descent) (blocks : Nat) : Descent :=
  { d with rung := .lineStart blocks, around := [], follows := false, blocks }

def opened (d : Descent) (holder : Holder) : Descent :=
  reach { d with rung := d.rung.enter holder, around := d.rung :: d.around, follows := false } 0

def closed (d : Descent) : Descent :=
  match d.around with
  | s :: around => { d with rung := s, around, follows := true }
  | [] => { d with follows := true }

def read (d : Descent) (t : Token) : Descent :=
  match t.lexeme with
  | .name _ | .number _ => { d.reach 0 with follows := true }
  | .quotation .. => { d.reach 2 with follows := true }
  | .word w =>
    if w = "True" || w = "False" || w = "None" then { d.reach 0 with follows := true }
    else { d with rung := d.rung.word w, follows := false }
  | .mark m =>
    if m = "(" then d.opened (if d.follows then .call else .group)
    else if m = "[" then d.opened (if d.follows then .subscript else .items)
    else if m = "\x7b" then d.opened .items
    else if m = ")" || m = "]" || m = "\x7d" then d.closed
    else reach { d with rung := d.rung.mark d.follows m, follows := false } 0
  | .newline => d.line d.blocks
  | .indent => d.line (d.blocks + 1)
  | .dedent => d.line (d.blocks - 1)
  | .finish => d

end Descent

def stepLimit : Nat := 5975

def Tokens.isTooDeep (ts : Tokens) (start : Rung) : Bool :=
  stepLimit < (ts.tokens.foldl Descent.read { rung := start }).deepest

end Counterpart.Script
