import Counterpart.Module.Definitions

/-!
What the hints of a compiled unit stand for: the classes that values are expected to belong to, and the
conversion of a value to one of the builtin classes.
-/
namespace Counterpart

inductive ValueClass where
  | truth
  | integer
  | real
  | text
  | bytes
  | list
  | enum (name : Text) (plan : EnumPlan)
  | record (name : Text) (decl : RecordDecl)
  deriving DecidableEq, Repr

namespace ValueClass

def name : ValueClass → Text
  | .truth => "bool"
  | .integer => "int"
  | .real => "float"
  | .text => "str"
  | .bytes => "bytes"
  | .list => "list"
  | .enum name _ => name
  | .record name _ => name

def ofName? (name : Text) : Option ValueClass :=
  [truth, integer, real, text, bytes, list].find? fun c => c.name = name

def has : ValueClass → Value → Bool
  | .truth, .truth _ => true
  | .integer, v => v.integer?.isSome
  | .real, .real _ => true
  | .text, .text _ => true
  | .bytes, .bytes _ => true
  | .list, .list _ => true
  | .enum name _, .enumerator cls _ _ => cls = name
  | .record name _, .record cls _ => cls = name
  | _, _ => false

end ValueClass

namespace Module

def classNamed (m : Module) (symbol : Text) : Except Fault ValueClass :=
  match m.definition? symbol with
  | some (.enum plan) => .ok (.enum symbol plan)
  | some (.record r) => .ok (.record symbol r)
  | _ => .error (.undefined symbol)

/-- What a value of a hint is expected to belong to; nothing is expected where any value will do. -/
def expected (m : Module) : Hint → Except Fault (Option ValueClass)
  | .truth => .ok (some .truth)
  | .integer => .ok (some .integer)
  | .real => .ok (some .real)
  | .text => .ok (some .text)
  | .bytes => .ok (some .bytes)
  | .texts => .ok (some .list)
  | .any => .ok none
  | .named symbol => (m.classNamed symbol).map some

end Module
end Counterpart
