import Counterpart.Keyed
import Counterpart.Wire.Builtin

/-!
The registry of types that travel by name. Builtin types have the first ids and are never registered;
other types get an id when their name is first registered and keep it.
-/
namespace Counterpart

inductive ClassRef where
  | ofUnit (name : Text)
  | foreign (name : Text)
  | integer
  deriving DecidableEq, Repr

def ClassRef.name : ClassRef → Text
  | .ofUnit name => name
  | .foreign name => name
  | .integer => "int"

inductive Codec where
  | own
  | usedEnum
  | byte
  deriving DecidableEq, Repr

structure RegisteredType (γ : optParam Type Codec) where
  type : ClassRef
  id : Nat
  codec : γ
  deriving DecidableEq, Repr

structure Registry (γ : optParam Type Codec) where
  types : List (Text × RegisteredType γ) := []
  deriving DecidableEq, Repr

namespace Registry

variable {γ : Type}

def firstId : Nat := 1024

def unknownId : Int := -1

def lookup (r : Registry γ) (name : Text) : Option (RegisteredType γ) := Keyed.get? name r.types

def names (r : Registry γ) : List Text := Keyed.keys r.types

/-- The id for a name that is not builtin: the one it has, or the next one. -/
def idFor (r : Registry γ) (name : Text) : Nat :=
  match r.lookup name with
  | some known => known.id
  | none => firstId + r.types.length

/-- Registers a type under a name. Nothing changes for a builtin name or for the type that has the
name already; another type takes the place and the id of the one that had the name. -/
def register (r : Registry γ) (name : Text) (type : ClassRef) (codec : γ) : Nat × Registry γ :=
  match Builtin.typeId? name with
  | some id => (id, r)
  | none =>
    let id := r.idFor name
    if (r.lookup name).any (·.type = type) then (id, r)
    else (id, { types := Keyed.set name { type, id, codec } r.types })

def typeId (r : Registry γ) (name : Text) : Int :=
  match Builtin.typeId? name with
  | some id => id
  | none =>
    match r.lookup name with
    | some known => known.id
    | none => unknownId

def typeName (r : Registry γ) (id : Int) : Text :=
  if 0 ≤ id ∧ id < Builtin.names.length then Builtin.names[id.toNat]?.getD []
  else
    match r.types.find? fun (_, known) => (known.id : Int) = id with
    | some (name, _) => name
    | none => []

end Registry
end Counterpart
