import Counterpart.Literal.Quotation
import Counterpart.Module.Definitions
import Counterpart.Registry

/-!
The registration of the types of a compiled unit. It stops at the first type that is not defined or cannot be
unpacked; those before it stay registered.
-/
namespace Counterpart

/-- The name that is read where the name of a type is written between double quotes; one that cannot be read stays as
it is. -/
def Registration.readName (r : Registration) : Text := r.name.reread.toOption.getD r.name

namespace Module

def registered (m : Module) (r : Registration) : Except Fault (ClassRef × Codec) :=
  match r.used?, m.definition? r.symbol with
  | some _, _ => .ok (.integer, .usedEnum)
  | none, some (.enum _) | none, some (.record _) => .ok (.ofUnit r.symbol, .own)
  | none, some _ => .error (.noClassAttribute r.symbol "unpack")
  | none, none => .error (.undefined r.symbol)

def registerEach (m : Module) : List Registration → Registry → Except Fault Unit × Registry
  | [], registry => (.ok (), registry)
  | r :: rest, registry =>
    match m.registered r with
    | .ok (type, codec) => m.registerEach rest (registry.register r.readName type codec).2
    | .error e => (.error e, registry)

def register (m : Module) (registry : Registry) : Except Fault Unit × Registry :=
  m.registerEach m.interface.registrations registry

end Module
end Counterpart
