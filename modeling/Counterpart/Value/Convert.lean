import Counterpart.Value.Basic
import Counterpart.Value.Fault

/-!
Conversions between values: to an integer, a floating-point number, a text, bytes, and a list of items. Each
says why it refuses a value.
-/
namespace Counterpart.Value

def lacks (v : Value) (name : Text) : Fault := .noAttribute v.kind name

def asciiText? (b : Bytes) : Option Text :=
  if b.all (· < 128) then some (b.map fun x => CodePoint.ofNat x.toNat) else Option.none

/-- The integer that a text spells; `quoted` is how it is shown when it spells none. -/
def readInteger (quoted t : Text) : Except Fault Int :=
  match Numeral.readInteger t with
  | .ok i => .ok i
  | .error .malformed => .error (.notNumeral quoted)
  | .error (.tooLong digits) => .error (.longNumeral digits)

/-- The integer of a value: fractions lose what is behind the point, texts and bytes are read as
decimal numerals. -/
def toInteger : Value → Except Fault Int
  | .real d =>
    match d.parts, d.truncate? with
    | .notANumber, _ => .error .noNumber
    | _, some i => .ok i
    | _, Option.none => .error .infinite
  | .text t => readInteger (Quoted.text t) t
  | .bytes b =>
    match asciiText? b with
    | some t => readInteger (Quoted.bytes b) t
    | Option.none => .error (.notNumeral (Quoted.bytes b))
  | v =>
    match v.integer? with
    | some i => .ok i
    | Option.none => .error (.notInteger v.kind)

def toReal : Value → Except Fault Double
  | .real d => .ok d
  | .text t =>
    match Numeral.double? t with
    | some d => .ok d
    | Option.none => .error (.notFraction (Quoted.text t))
  | .bytes b =>
    match (asciiText? b).bind Numeral.double? with
    | some d => .ok d
    | Option.none => .error (.notFraction (Quoted.bytes b))
  | v =>
    match v.integer? with
    | some i =>
      match Double.ofInt? i with
      | some d => .ok d
      | Option.none => .error .tooLargeForReal
    | Option.none => .error (.notReal v.kind)

mutual
def isWritable : Value → Bool
  | .integer i | .enumerator _ _ i | .foreign _ i => i.natAbs < 10 ^ Numeral.digitLimit
  | .list items | .tuple items => areWritable items
  | .record _ fields => fieldsWritable fields
  | _ => true

def areWritable : List Value → Bool
  | [] => true
  | v :: rest => isWritable v && areWritable rest

def fieldsWritable : List (Text × Value) → Bool
  | [] => true
  | (_, v) :: rest => isWritable v && fieldsWritable rest
end

def toText (v : Value) : Except Fault Text := if v.isWritable then .ok v.shown else .error .longNumber

def toByte (v : Value) : Except Fault UInt8 :=
  match v.integer? with
  | some i => if 0 ≤ i ∧ i < 256 then .ok (UInt8.ofNat i.toNat) else .error .notByte
  | Option.none => .error (.notIndex v.kind)

def toByteList : List Value → Except Fault Bytes
  | [] => .ok []
  | v :: rest =>
    match toByte v with
    | .error e => .error e
    | .ok b => (toByteList rest).map (b :: ·)

def isIndex (i : Int) : Bool := -2 ^ 63 ≤ i && i < 2 ^ 63

/-- How many bytes there is room for, which the machine decides, where nothing else is said. -/
def usualRoom : Nat := 2 ^ 30

def zeroBytes (count : Int) (room : Nat := usualRoom) : Except Fault Bytes :=
  if !isIndex count then .error .tooLargeForIndex
  else if count < 0 then .error .negativeCount
  else if 2 ^ 63 - 34 < count then .error .blockTooLarge
  else if room ≤ count then .error .noMemory
  else .ok (List.replicate count.toNat 0)

def toBytes (v : Value) (room : Nat := usualRoom) : Except Fault Bytes :=
  match v with
  | .bytes b => .ok b
  | .text _ => .error .noEncoding
  | .list items => toByteList items
  | .tuple items => toByteList items
  | v =>
    match v.integer? with
    | some i => zeroBytes i room
    | Option.none => .error (.notBytes v.kind)

def length : Value → Except Fault Nat
  | .text t => .ok t.length
  | .bytes b => .ok b.length
  | .list items => .ok items.length
  | .tuple items => .ok items.length
  | v => .error (.noLength v.kind)

def toItems : Value → Except Fault (List Value)
  | .text t => .ok (t.map fun c => .text [c])
  | .bytes b => .ok (b.map fun x => .integer x.toNat)
  | .list items => .ok items
  | .tuple items => .ok items
  | v => .error (.notIterable v.kind)

mutual
def unhashable? : Value → Option Text
  | .list _ => some "list"
  | .record cls _ => some cls
  | .tuple items => unhashableItem? items
  | _ => Option.none

def unhashableItem? : List Value → Option Text
  | [] => Option.none
  | v :: rest =>
    match unhashable? v with
    | some kind => some kind
    | Option.none => unhashableItem? rest
end

end Counterpart.Value
