import Counterpart.Default.Resolve
import Counterpart.Value.Basic

/-!
Default values where they stand in a module. A quoted default is written as it is given, so it may hold commas,
which make it a tuple, and may end in a remark, which hides what follows on its line. By itself such a default
has one value; in a list it may come to several, or run on into the next one.
-/
namespace Counterpart

mutual
def Literal.value : Literal → Value
  | .null => .none
  | .truth b => .truth b
  | .integer i => .integer i
  | .real d => .real d
  | .text t => .text t
  | .bytes b => .bytes b
  | .tuple items => .tuple (values items)
  | .list items => .list (values items)
  | .complex .. => .other "complex" []
  | .ellipsis => .other "ellipsis" "Ellipsis"
  | .set _ => .other "set" []
  | .dictionary _ => .other "dict" []

def Literal.values : List Literal → List Value
  | [] => []
  | l :: rest => l.value :: values rest
end

def Value.join : Value → Value → Except Fault Value
  | .text s, .text t => .ok (.text (s ++ t))
  | .bytes s, .bytes t => .ok (.bytes (s ++ t))
  | _, _ => .error .unreadable

structure Piece where
  first : Value
  others? : Option (List Value) := none
  /-- A remark hides what follows on its line. -/
  isOpen : Bool := false
  /-- A comma stands before the remark. -/
  endsInComma : Bool := false

namespace Piece

def value (p : Piece) : Value :=
  match p.others? with
  | none => p.first
  | some others => .tuple (p.first :: others)

def items (p : Piece) : List Value := p.first :: p.others?.getD []

def runsOn (p : Piece) : Bool := p.isOpen && !p.endsInComma

def followedBy (p : Piece) (later : List Value) : Except Fault (List Value) :=
  match p.runsOn, later with
  | true, next :: rest => do
    let joined ← (p.items.getLastD p.first).join next
    return p.items.dropLast ++ joined :: rest
  | _, later => .ok (p.items ++ later)

/-- The piece that a quoted default is. The lines of a module end in line feeds, however they are written. -/
def ofSource (source : Text) : Except Fault Piece :=
  let written := Text.unifyLines source
  let isOpen := (Script.readConstant (written ++ ")")).isOk
  let endsInComma := (Script.readConstant ("(" ++ written ++ "\n0)")).isOk
  match Script.readConstant written with
  | .ok (.tuple (first :: others)) => .ok ⟨first.value, some (Literal.values others), isOpen, endsInComma⟩
  | .ok constant => .ok ⟨constant.value, none, isOpen, endsInComma⟩
  | .error _ => .error .unreadable

end Piece
end Counterpart
