import Counterpart.Interface.Basic
import Counterpart.Wire.Format

/-!
How an enum travels: as an integer that is just wide enough for the largest magnitude, signed if it
has to be. An integer that no enumerator has stands for the first enumerator.
-/
namespace Counterpart

inductive Width where
  | bits8
  | bits16
  | bits32
  deriving DecidableEq, Repr

structure WireType where
  signed : Bool
  width : Width
  deriving DecidableEq, Repr

namespace WireType

def bits (w : WireType) : Nat :=
  match w.width with
  | .bits8 => 8
  | .bits16 => 16
  | .bits32 => 32

def size (w : WireType) : Nat := w.bits / 8

def name (w : WireType) : Text := (if w.signed then "qint" else "quint" : Text) ++ Text.ofNat w.bits

def format (w : WireType) : NumberFormat :=
  match w.signed, w.width with
  | true, .bits8 => .int8
  | true, .bits16 => .int16
  | true, .bits32 => .int32
  | false, .bits8 => .uint8
  | false, .bits16 => .uint16
  | false, .bits32 => .uint32

def narrowest (signed : Bool) (max : Int) : WireType :=
  if signed then
    if max < 0x7F then ⟨true, .bits8⟩
    else if max < 0x7FFF then ⟨true, .bits16⟩
    else ⟨true, .bits32⟩
  else
    if max < 0xFF then ⟨false, .bits8⟩
    else if max < 0xFFFF then ⟨false, .bits16⟩
    else ⟨false, .bits32⟩

/-- Enums that are declared elsewhere travel in 32 bits. -/
def ofUsedEnum : WireType := ⟨true, .bits32⟩

end WireType

structure EnumPlan where
  name : Text
  signed : Bool
  max : Whole
  wire : WireType
  values : List Enumerator
  deriving DecidableEq, Repr

namespace EnumDecl

/-- The enum is signed: it says so, or else some value is negative. -/
def isSigned (e : EnumDecl) : Bool := e.signed?.getD (e.enumerators.any fun x => x.value.toInt < 0)

/-- The largest magnitude: as declared, or else that of the values. -/
def largest (e : EnumDecl) : Whole :=
  e.max?.getD (.number (e.enumerators.foldl (fun m x => max m x.value.toInt.natAbs) (0 : Nat)))

def plan (e : EnumDecl) : EnumPlan where
  name := e.name
  signed := e.isSigned
  max := e.largest
  wire := WireType.narrowest e.isSigned e.largest.toInt
  values := e.enumerators

end EnumDecl

namespace EnumPlan

/-- The name of the first enumerator, which stands for integers that no enumerator has. -/
def fallback (p : EnumPlan) : Text := (p.values.head?.map (·.name)).getD []

/-- The name of the first enumerator that has an integer, or the fallback and `false`. -/
def convert (p : EnumPlan) (raw : Int) : Text × Bool :=
  match p.values.find? fun e => e.value.toInt? = some raw with
  | some e => (e.name, true)
  | none => (p.fallback, false)

end EnumPlan
end Counterpart
