import Counterpart.Script.Check
import Counterpart.Script.Library

/-!
The packages that a module can load and that are written in the language of modules themselves.
-/
namespace Counterpart.Script

def packageKeys : List String := (rows "packages").flatten

def packageNames : List Text := packageKeys.map Text.ofString

def packageTexts (_ : Unit) : List String :=
  ((String.ofList (Packed.unpack 352390 ['\n'] Package.texts)).splitOn "\x02").getLastD "" |>.splitOn "\x01"

def packageText? (name : Text) : Option String := (packageKeys.zip (packageTexts ())).lookup name.toString

def packageBody (name : Text) : List Stmt :=
  match packageText? name with
  | none => []
  | some text =>
    match compileModule text with
    | .ok body => body
    | .error _ => []

/-! ## Functions of built-in classes -/

def functionsIn (owner : Text) (body : List Stmt) : List ((String × String) × List Param × List Stmt) :=
  body.filterMap fun s =>
    match s with
    | .function name params _ body _ _ => some ((owner.toString, name.toString), params, body)
    | _ => none

def writtenFunctions : List ((String × String) × List Param × List Stmt) :=
  match compileModule (libraryTables.getD 3 "") with
  | .ok body =>
    functionsIn "enum" body ++ body.flatMap fun s =>
      match s with
      | .classDef name _ body _ => functionsIn name body
      | _ => []
  | .error _ => []

end Counterpart.Script
