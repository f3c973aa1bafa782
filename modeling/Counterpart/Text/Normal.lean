import Counterpart.Text.Decomposition

/-!
Normal forms of texts. A code point is replaced by what it is made of, marks are put in the order of their
classes, and a letter may then be joined with the marks that it has a joint form with. In the compatible forms,
code points that only differ in how they look become the same.
-/
namespace Counterpart

namespace Normal

def sounds? (n : Nat) : Option (List Nat) :=
  if 0xAC00 ≤ n && n < 0xAC00 + 11172 then
    let index := n - 0xAC00
    let last := index % 28
    some ([0x1100 + index / 588, 0x1161 + index % 588 / 28] ++ if last = 0 then [] else [0x11A7 + last])
  else none

def decompose (compatible : Bool) : Nat → Nat → List Nat
  | 0, n => [n]
  | fuel + 1, n =>
    match sounds? n with
    | some sounds => sounds
    | none =>
      match Decomposition.of? n with
      | some d => if d.style = 0 || compatible then d.parts.flatMap (decompose compatible fuel) else [n]
      | none => [n]

def depth : Nat := 8

def insertMark (n : Nat) : List Nat → List Nat
  | [] => [n]
  | m :: rest =>
    let c := Decomposition.classOf m
    if c ≠ 0 && c < Decomposition.classOf n then m :: insertMark n rest else n :: m :: rest

def reorder (ns : List Nat) : List Nat :=
  ns.foldr (fun n read => if Decomposition.classOf n = 0 then n :: read else insertMark n read) []

def joint? (a b : Nat) : Option Nat :=
  if 0x1100 ≤ a && a < 0x1113 && 0x1161 ≤ b && b < 0x1176 then
    some (0xAC00 + ((a - 0x1100) * 21 + (b - 0x1161)) * 28)
  else if 0xAC00 ≤ a && a < 0xAC00 + 11172 && (a - 0xAC00) % 28 = 0 && 0x11A7 < b && b < 0x11C3 then
    some (a + (b - 0x11A7))
  else (Decomposition.compositions.find? fun (pair, _) => pair = (a, b)).map (·.2)

/-- Joins a letter with what follows it. The marks kept between the two are in `kept`, the last first; a mark
is joined unless one of its class or a higher one is kept. -/
def joinFrom : Nat → Nat → List Nat → List Nat → List Nat
  | 0, letter, kept, rest => letter :: (kept.reverse ++ rest)
  | _, letter, kept, [] => letter :: kept.reverse
  | fuel + 1, letter, kept, n :: rest =>
    let isBlocked := match kept with
      | [] => false
      | last :: _ => Decomposition.classOf n ≤ Decomposition.classOf last
    match isBlocked, joint? letter n with
    | false, some joint => joinFrom fuel joint kept rest
    | _, _ =>
      if Decomposition.classOf n = 0 then letter :: (kept.reverse ++ joinFrom fuel n [] rest)
      else joinFrom fuel letter (n :: kept) rest

def join : List Nat → List Nat
  | [] => []
  | n :: rest => if Decomposition.classOf n = 0 then joinFrom (rest.length + 1) n [] rest else n :: join rest

end Normal

def Text.normalized (compatible joined : Bool) (t : Text) : Text :=
  if t.all (·.val < 128) then t
  else
    let parts := Normal.reorder (t.flatMap fun c => Normal.decompose compatible Normal.depth c.val)
    (if joined then Normal.join parts else parts).map CodePoint.ofNat

def Text.normal (t : Text) : Text := t.normalized true true

end Counterpart
