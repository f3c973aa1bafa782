import Counterpart.Text.Blank

/-!
Looking for rows in rows, and cutting rows where others stand in them. Texts and bytes are such rows alike.
-/
namespace Counterpart.Script.Search

variable {α : Type} [BEq α]

def after? : List α → List α → Option (List α)
  | [], t => some t
  | _ :: _, [] => none
  | a :: s, b :: t => if a == b then after? s t else none

def startsWith (part t : List α) : Bool := (after? part t).isSome

def endsWith (part t : List α) : Bool := startsWith part.reverse t.reverse

def first? (part : List α) : List α → Option Nat
  | [] => if part.isEmpty then some 0 else none
  | c :: rest => if startsWith part (c :: rest) then some 0 else (first? part rest).map (· + 1)

def last? (part t : List α) : Option Nat := (first? part.reverse t.reverse).map fun n => t.length - n - part.length

/-- The pieces of a row between the places of a mark, cut so often at most; `read` is what is read of the
first piece, the last item first. -/
def cutAt (mark : List α) : Nat → Option Nat → List α → List α → List (List α)
  | 0, _, read, t => [read.reverse ++ t]
  | _, some 0, read, t => [read.reverse ++ t]
  | _, _, read, [] => [read.reverse]
  | fuel + 1, limit?, read, c :: rest =>
    match after? mark (c :: rest) with
    | some after => read.reverse :: cutAt mark fuel (limit?.map (· - 1)) [] after
    | none => cutAt mark fuel limit? (c :: read) rest

def cut (mark : List α) (limit? : Option Nat) (t : List α) : List (List α) := cutAt mark (t.length + 1) limit? [] t

def cutFromEnd (mark : List α) (limit? : Option Nat) (t : List α) : List (List α) :=
  ((cut mark.reverse limit? t.reverse).map List.reverse).reverse

def count (part t : List α) : Nat := if part.isEmpty then t.length + 1 else (cut part none t).length - 1

def join (mark : List α) (rows : List (List α)) : List α := (rows.intersperse mark).flatten

def interleave (new : List α) : Option Nat → List α → List α
  | some 0, t => t
  | _, [] => new
  | limit?, c :: rest => new ++ c :: interleave new (limit?.map (· - 1)) rest

def replace (old new : List α) (limit? : Option Nat) (t : List α) : List α :=
  if old.isEmpty then interleave new limit? t else join new (cut old limit? t)

def words (divides : α → Bool) : Nat → Option Nat → List α → List (List α)
  | 0, _, _ => []
  | fuel + 1, limit?, t =>
    let t := t.dropWhile divides
    if t.isEmpty then []
    else
      match limit? with
      | some 0 => [t]
      | limit? =>
        t.takeWhile (fun c => !divides c) ::
          words divides fuel (limit?.map (· - 1)) (t.dropWhile fun c => !divides c)

def wordsFromEnd (divides : α → Bool) (limit? : Option Nat) (t : List α) : List (List α) :=
  ((words divides (t.length + 1) limit? t.reverse).map List.reverse).reverse

def strip (left right : Bool) (isEdge : α → Bool) (t : List α) : List α :=
  let t := if left then t.dropWhile isEdge else t
  if right then (t.reverse.dropWhile isEdge).reverse else t

end Counterpart.Script.Search
