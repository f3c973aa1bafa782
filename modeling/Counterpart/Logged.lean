import Counterpart.Default.Resolve

/-!
Warnings, and results that come with the warnings given on the way. A failure keeps the warnings that
were given before it.
-/
namespace Counterpart

inductive Warning where
  | strangeNumber (cls raw : Text)
  | strangeProperty (replica : Text) (index : Int)
  | inconvertible (replica property type : Text)
  | default (w : DefaultWarning)
  deriving DecidableEq, Repr

def Warning.message : Warning → Text
  | .strangeNumber cls raw =>
    Text.concat ["Received an invalid enum value for type ", cls, ", value = ", raw]
  | .strangeProperty replica index =>
    Text.concat [replica, " ignored an update for unknown property ", Text.ofInt index]
  | .inconvertible replica property type =>
    Text.concat [replica, " cannot convert the property ", property, " to type ", type]
  | .default w => w.message

structure Logged (α : Type) where
  result : Except Fault α
  log : List Warning := []

namespace Logged

def done {α : Type} (a : α) : Logged α := { result := .ok a }

def of {α : Type} (result : Except Fault α) : Logged α := { result }

def fail {α : Type} (e : Fault) : Logged α := { result := .error e }

def warn (w : Warning) : Logged Unit := { result := .ok (), log := [w] }

def andThen {α β : Type} (x : Logged α) (next : α → Logged β) : Logged β :=
  match x.result with
  | .ok a => { result := (next a).result, log := x.log ++ (next a).log }
  | .error e => { result := .error e, log := x.log }

instance : Monad Logged where
  pure := done
  bind := andThen

def mapFault {α : Type} (rename : Fault → Fault) (x : Logged α) : Logged α :=
  { result := x.result.mapError rename, log := x.log }

end Logged
end Counterpart
