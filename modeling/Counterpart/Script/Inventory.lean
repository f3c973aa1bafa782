import Std.Data.HashMap
import Counterpart.Script.Library

/-!
The built-in classes: where they are from, what they derive from, and the names of their attributes by sort.
-/
namespace Counterpart.Script

structure KnownClass where
  key : String
  name : String
  module : String
  bases : List String
  type : String
  isFinal : Bool
  isFixed : Bool
  hasAttributes : Bool
  hasLayout : Bool
  /-- The names of its attributes, each with the letter of its sort. -/
  attrs : List (Char × String)

namespace KnownClass

def ofLine (line : String) : KnownClass :=
  match line.splitOn " " with
  | [key, name, module, bases, type, marks] =>
    { key, name, module, type
      bases := if bases = "-" then [] else bases.splitOn ","
      isFinal := marks.contains 'F'
      isFixed := marks.contains 'C'
      hasAttributes := marks.contains 'D'
      hasLayout := marks.contains 'S'
      attrs := [] }
  | _ => ⟨line, line, "", [], "type", false, false, false, false, []⟩

def attrsOfLine (line : String) : List (Char × String) :=
  match line.splitOn " " with
  | _ :: letter :: names => names.map fun name => (letter.toList.headD 'v', name)
  | _ => []

def ofLines (lines : List String) : List KnownClass :=
  lines.foldl (fun classes line =>
    match classes with
    | c :: rest =>
      if line.startsWith " " then { c with attrs := c.attrs ++ attrsOfLine line } :: rest else ofLine line :: classes
    | [] => [ofLine line]) []

end KnownClass

def knownClasses : Array KnownClass := (KnownClass.ofLines (inventory.splitOn "\n")).reverse.toArray

def knownPlaces : Std.HashMap String Nat :=
  (knownClasses.toList.zipIdx).foldl (fun places (c, place) => places.insert c.key place) {}

def known (key : String) : Nat := knownPlaces.getD key 0

/-! ## What is known everywhere -/

def builtinClasses : List KnownClass := knownClasses.toList.take (known "function")

def builtinFunctions : List String :=
  ("__build_class__ __import__ abs aiter all anext any ascii bin breakpoint callable chr compile delattr dir divmod " ++
   "eval exec format getattr globals hasattr hash hex id input isinstance issubclass iter len locals max min next " ++
   "oct open ord pow print repr round setattr sorted sum vars").splitOn " "

def builtinValues : List String :=
  "Ellipsis NotImplemented EnvironmentError IOError copyright credits exit help license quit __debug__".splitOn " "

def builtinNames : List Text := (builtinClasses.map (·.name) ++ builtinFunctions ++ builtinValues).map Text.ofString

end Counterpart.Script
