import Counterpart.Number.Shortest
import Counterpart.Text.Quoted

/-!
Values that travel and are kept: plain ones, enumerators and records of a unit, and values of classes
that are no part of a unit. Nothing is converted unless someone asks for it.
-/
namespace Counterpart

inductive Value where
  | none
  | truth (b : Bool)
  | integer (i : Int)
  | real (d : Double)
  | text (t : Text)
  | bytes (b : Bytes)
  | list (items : List Value)
  | tuple (items : List Value)
  | enumerator (cls name : Text) (number : Int)
  | record (cls : Text) (fields : List (Text × Value))
  /-- A value of a class that is no part of the unit; all it holds is a number. -/
  | foreign (cls : Text) (number : Int)
  | other (cls shown : Text)

namespace Value

def kind : Value → Text
  | .none => "NoneType"
  | .truth _ => "bool"
  | .integer _ => "int"
  | .real _ => "float"
  | .text _ => "str"
  | .bytes _ => "bytes"
  | .list _ => "list"
  | .tuple _ => "tuple"
  | .enumerator cls _ _ => cls
  | .record cls _ => cls
  | .foreign cls _ => cls
  | .other cls _ => cls

def integer? : Value → Option Int
  | .truth b => some (if b then 1 else 0)
  | .integer i => some i
  | .enumerator _ _ number => some number
  | _ => Option.none

def isTrue : Value → Bool
  | .none => false
  | .truth b => b
  | .integer i => i ≠ 0
  | .real d => !d.isZero
  | .text t => !t.isEmpty
  | .bytes b => !b.isEmpty
  | .list items => !items.isEmpty
  | .tuple items => !items.isEmpty
  | .enumerator _ _ number => number ≠ 0
  | .record _ _ => true
  | .foreign _ _ => true
  | .other _ _ => true

mutual
def quoted : Value → Text
  | .none => "None"
  | .truth b => if b then "True" else "False"
  | .integer i => Text.ofInt i
  | .real d => d.text
  | .text t => Quoted.text t
  | .bytes b => Quoted.bytes b
  | .list items => "[" ++ Text.join ", " (quotedItems items) ++ "]"
  | .tuple items => Quoted.tuple (quotedItems items)
  | .enumerator cls name number => Text.concat ["<", cls, ".", name, ": ", Text.ofInt number, ">"]
  | .record cls fields => cls ++ "(" ++ Text.join ", " (quotedFields fields) ++ ")"
  | .foreign cls number => Text.concat [cls, "(n=", Text.ofInt number, ")"]
  | .other _ shown => shown

def quotedItems : List Value → List Text
  | [] => []
  | v :: rest => quoted v :: quotedItems rest

def quotedFields : List (Text × Value) → List Text
  | [] => []
  | (name, v) :: rest => (name ++ "=" ++ quoted v) :: quotedFields rest
end

/-- The value as it is shown by itself: texts without quotes, enumerators as their numbers. -/
def shown : Value → Text
  | .text t => t
  | .enumerator _ _ number => Text.ofInt number
  | v => quoted v

/-- The equality of values that are no containers: numbers are compared by value, whatever their class, and
values of classes that are no part of the unit are equal to nothing. -/
def equalsAtom (a b : Value) : Bool :=
  match a, b with
  | .none, .none => true
  | .text s, .text t => s = t
  | .bytes s, .bytes t => s = t
  | .real d, .real e => d.equals e
  | .real d, v => v.integer?.any d.equalsInt
  | v, .real d => v.integer?.any d.equalsInt
  | v, w => v.integer?.isSome && v.integer? = w.integer?

mutual
def equals : Value → Value → Bool
  | .list xs, .list ys => equalItems xs ys
  | .tuple xs, .tuple ys => equalItems xs ys
  | .record c xs, .record d ys => c = d && equalFields xs ys
  | v, w => equalsAtom v w

def equalItems : List Value → List Value → Bool
  | [], [] => true
  | v :: xs, w :: ys => equals v w && equalItems xs ys
  | _, _ => false

def equalFields : List (Text × Value) → List (Text × Value) → Bool
  | [], [] => true
  | (_, v) :: xs, (_, w) :: ys => equals v w && equalFields xs ys
  | _, _ => false
end

end Value
end Counterpart
