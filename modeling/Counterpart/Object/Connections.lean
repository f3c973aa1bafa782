import Counterpart.Keyed
import Counterpart.Text.Basic

/-!
The receivers connected to the signals of one object, in the order of their connection. A receiver
is called once for each of its connections.
-/
namespace Counterpart

structure Connections (ρ : Type) where
  bySignal : List (Text × List ρ) := []

namespace Connections

variable {ρ : Type}

def receivers (c : Connections ρ) (signal : Text) : List ρ := (Keyed.get? signal c.bySignal).getD []

def setReceivers (c : Connections ρ) (signal : Text) (receivers : List ρ) : Connections ρ :=
  { bySignal := Keyed.set signal receivers c.bySignal }

def connect (c : Connections ρ) (signal : Text) (receiver : ρ) : Connections ρ :=
  c.setReceivers signal (c.receivers signal ++ [receiver])

def disconnect? [DecidableEq ρ] (c : Connections ρ) (signal : Text) (receiver : ρ) :
    Option (Connections ρ) :=
  if receiver ∈ c.receivers signal then some (c.setReceivers signal ((c.receivers signal).erase receiver))
  else none

theorem receivers_setReceivers_self (c : Connections ρ) (signal : Text) (receivers : List ρ) :
    (c.setReceivers signal receivers).receivers signal = receivers := by
  simp [setReceivers, Connections.receivers, Keyed.get?_set_self]

theorem receivers_setReceivers_of_ne (c : Connections ρ) {signal other : Text} (different : other ≠ signal)
    (receivers : List ρ) : (c.setReceivers signal receivers).receivers other = c.receivers other := by
  simp [setReceivers, Connections.receivers, Keyed.get?_set_of_ne different]

end Connections
end Counterpart
