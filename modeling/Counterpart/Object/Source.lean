import Counterpart.Keyed
import Counterpart.Value.Basic

/-!
The state of a source: the values of its properties.
-/
namespace Counterpart

structure Source where
  values : List (Text × Value) := []

namespace Source

def value? (s : Source) (property : Text) : Option Value := Keyed.get? property s.values

def differs (s : Source) (property : Text) (v : Value) : Bool := !(s.value? property).any v.equals

def store (s : Source) (property : Text) (v : Value) : Source :=
  { values := Keyed.set property v s.values }

/-- Gives a property a value that differs from the one it has; `none` when it is equal to that. -/
def assign? (s : Source) (property : Text) (v : Value) : Option Source :=
  if s.differs property v then some (s.store property v) else none

end Source
end Counterpart
