import Counterpart.Keyed
import Counterpart.Number.Shortest
import Counterpart.Text.Quoted

/-!
JSON documents. Objects keep their members in order, integers are exact, and the three words for an
infinity or no number are numbers too.
-/
namespace Counterpart

inductive Json where
  | null
  | bool (b : Bool)
  | int (i : Int)
  | float (d : Double)
  | str (t : Text)
  | arr (items : List Json)
  | obj (members : List (Text × Json))

namespace Json

def member? (name : Text) : Json → Option Json
  | .obj members => Keyed.get? name members
  | _ => none

def kind : Json → Text
  | .null => "NoneType"
  | .bool _ => "bool"
  | .int _ => "int"
  | .float _ => "float"
  | .str _ => "str"
  | .arr _ => "list"
  | .obj _ => "dict"

def truth : Json → Bool
  | .null => false
  | .bool b => b
  | .int i => i != 0
  | .float d => !d.isZero
  | .str t => !t.isEmpty
  | .arr items => !items.isEmpty
  | .obj members => !members.isEmpty

mutual
def quoted : Json → Text
  | .null => "None"
  | .bool b => if b then "True" else "False"
  | .int i => Text.ofInt i
  | .float d => d.text
  | .str t => Quoted.text t
  | .arr items => "[" ++ Text.join ", " (quotedItems items) ++ "]"
  | .obj members => "\x7b" ++ Text.join ", " (quotedMembers members) ++ "\x7d"

def quotedItems : List Json → List Text
  | [] => []
  | item :: rest => quoted item :: quotedItems rest

def quotedMembers : List (Text × Json) → List Text
  | [] => []
  | (name, value) :: rest => (Quoted.text name ++ ": " ++ quoted value) :: quotedMembers rest
end

def text : Json → Text
  | .str t => t
  | other => quoted other

def name (t : Text) : Json := if t = Text.absent then .null else .str t.shown

end Json
end Counterpart
