import Counterpart.Value.Basic
import Counterpart.Value.Fault

/-!
Replies that come later. A reply is settled once, by a value or by being cancelled; those who wait
for it are called when that happens, in the order in which they came, and late-comers at once.
-/
namespace Counterpart

inductive ReplyState where
  | pending
  | delivered (v : Value)
  | cancelled

structure Reply (ρ : Type) where
  returnType : Text
  state : ReplyState := .pending
  waiting : List ρ := []

namespace Reply

variable {ρ : Type}

def isDone (r : Reply ρ) : Bool :=
  match r.state with
  | .pending => false
  | _ => true

def isCancelled (r : Reply ρ) : Bool :=
  match r.state with
  | .cancelled => true
  | _ => false

/-- Settles a reply with a value, unless it is settled. Tells whether it did, and whom to call. -/
def deliver (r : Reply ρ) (v : Value) : Bool × List ρ × Reply ρ :=
  match r.state with
  | .pending => (true, r.waiting, { r with state := .delivered v, waiting := [] })
  | _ => (false, [], r)

/-- Cancels a reply, unless a value has come. Tells whether it is cancelled, and whom to call. -/
def cancel (r : Reply ρ) : Bool × List ρ × Reply ρ :=
  match r.state with
  | .pending => (true, r.waiting, { r with state := .cancelled, waiting := [] })
  | .cancelled => (true, [], r)
  | .delivered _ => (false, [], r)

/-- Adds someone who waits. Tells whom to call at once. -/
def await (r : Reply ρ) (who : ρ) : List ρ × Reply ρ :=
  match r.state with
  | .pending => ([], { r with waiting := r.waiting ++ [who] })
  | _ => ([who], r)

def result (r : Reply ρ) : Except Fault Value :=
  match r.state with
  | .pending => .error .timeout
  | .delivered v => .ok v
  | .cancelled => .error .cancelled

end Reply
end Counterpart
