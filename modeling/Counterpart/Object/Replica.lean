import Counterpart.Logged
import Counterpart.Module.Construct

/-!
The state of a replica: the last known values of the properties by ordinal, the node it is attached
to, and the number of requests it has issued. Requests of one replica are numbered from zero.
-/
namespace Counterpart

inductive RequestKind where
  | writeProperty
  | invokeMethod
  deriving DecidableEq, Repr

def RequestKind.word : RequestKind → Text
  | .writeProperty => "WRITE_PROPERTY"
  | .invokeMethod => "INVOKE_METHOD"

def RequestKind.ofWord? (word : Text) : Option RequestKind :=
  [RequestKind.writeProperty, .invokeMethod].find? (·.word = word)

structure Invocation where
  kind : RequestKind
  index : Int
  args : List Value
  sequence : Nat

structure Replica where
  name : Text
  node? : Option Text := none
  values : List Value := []
  issued : Nat := 0

namespace Replica

def create (remoteType name : Text) (node? : Option Text) : Replica :=
  { name := if name.isEmpty then remoteType else name, node? }

/-- Takes in the value of a property. A property that is not there is ignored with a warning. -/
def update (r : Replica) (index : Int) (v : Value) : Bool × Replica × List Warning :=
  if index < 0 ∨ r.values.length ≤ index then (false, r, [.strangeProperty r.name index])
  else (true, { r with values := r.values.set index.toNat v }, [])

def valueAt (r : Replica) (index : Int) : Except Fault Value :=
  let position := if index < 0 then index + r.values.length else index
  match if position < 0 then none else r.values[position.toNat]? with
  | some v => .ok v
  | none => .error (if Value.isIndex index then .noItem else .hugeIndex)

/-- A conversion that fails because of the value gives the value itself and a warning. -/
def keepUnlessConverted (replica property type : Text) (v : Value) : Except Fault Value → Logged Value
  | .ok converted => Logged.done converted
  | .error e =>
    if e.kind = .type ∨ e.kind = .value ∨ e.kind = .encoding then do
      Logged.warn (.inconvertible replica property type)
      return v
    else Logged.fail e

def valueAs (m : Module) (room : Nat) (r : Replica) (index : Int) (expected? : Option ValueClass) (property : Text) :
    Logged Value := do
  let v ← Logged.of (r.valueAt index)
  match expected? with
  | none => return v
  | some cls => if cls.has v then return v else keepUnlessConverted r.name property cls.name v (m.convert v cls room)

/-- Issues a request, which gets the next number. A replica without a node issues nothing. -/
def issue (r : Replica) (kind : RequestKind) (index : Int) (args : List Value) :
    Except Fault (Text × Invocation × Replica) :=
  match r.node? with
  | none => .error (.detached r.name)
  | some node => .ok (node, ⟨kind, index, args, r.issued⟩, { r with issued := r.issued + 1 })

end Replica
end Counterpart
