import Counterpart.Text.Basic

/-!
The forms in which numbers travel: big-endian and of fixed width.
-/
namespace Counterpart

inductive NumberFormat where
  | truth
  | int8
  | uint8
  | int16
  | uint16
  | int32
  | uint32
  | int64
  | uint64
  | single
  | double
  deriving DecidableEq, Repr

namespace NumberFormat

def letter : NumberFormat → Text
  | .truth => "?"
  | .int8 => "b"
  | .uint8 => "B"
  | .int16 => "h"
  | .uint16 => "H"
  | .int32 => "i"
  | .uint32 => "I"
  | .int64 => "q"
  | .uint64 => "Q"
  | .single => "f"
  | .double => "d"

def size : NumberFormat → Nat
  | .truth | .int8 | .uint8 => 1
  | .int16 | .uint16 => 2
  | .int32 | .uint32 | .single => 4
  | .int64 | .uint64 | .double => 8

def bounds? : NumberFormat → Option (Int × Int)
  | .truth | .single | .double => none
  | .int8 => some (-128, 127)
  | .uint8 => some (0, 255)
  | .int16 => some (-32768, 32767)
  | .uint16 => some (0, 65535)
  | .int32 => some (-2147483648, 2147483647)
  | .uint32 => some (0, 4294967295)
  | .int64 => some (-9223372036854775808, 9223372036854775807)
  | .uint64 => some (0, 18446744073709551615)

end NumberFormat
end Counterpart
