import Counterpart.Proofs.Decoding
import Mathlib.Data.List.Induction

/-!
What is read is packed again. The bytes that a value was read from are the only ones that it is packed as, but for the
lengths that stand for nothing, which become lengths of zero. Main statement: a value of a builtin type with exact
values comes from the bytes that it is packed as, so that other bytes give another value.
-/
namespace Counterpart

variable {b : Bytes} {n : Nat} {t : Text}

/-! ## Numbers -/

theorem bigEndian_ofBigEndian (b : Bytes) : bigEndian b.length (ofBigEndian b) = b := by
  induction b using List.reverseRecOn with
  | nil => rfl
  | append_singleton b x ih =>
    have small := x.toNat_lt
    have quotient : (ofBigEndian b * 256 + x.toNat) / 256 = ofBigEndian b := by omega
    have rest : (ofBigEndian b * 256 + x.toNat) % 256 = x.toNat := by omega
    simp [bigEndian, ofBigEndian_append_singleton, quotient, rest, ih]

theorem ofBigEndian_lt (b : Bytes) : ofBigEndian b < 256 ^ b.length := by
  induction b using List.reverseRecOn with
  | nil => decide
  | append_singleton b x ih =>
    have small := x.toNat_lt
    rw [ofBigEndian_append_singleton, List.length_append, List.length_singleton, Nat.pow_succ]
    omega

namespace NumberFormat

theorem pack_read {format : NumberFormat} (exact : format.bounds?.isSome) (sized : b.length = format.size) :
    format.pack (format.read b) = .ok b := by
  have small := ofBigEndian_lt b
  have back := bigEndian_ofBigEndian b
  rw [sized] at small back
  obtain ⟨⟨least, greatest⟩, bounds⟩ := Option.isSome_iff_exists.mp exact
  have packed : format.packInteger (format.readInteger b) = .ok b := by
    have inside : least ≤ format.readInteger b ∧ format.readInteger b ≤ greatest ∧
        (format.readInteger b % 256 ^ format.size).toNat = ofBigEndian b := by
      rw [readInteger, bounds]
      cases format <;> simp only [bounds?, Option.some.injEq, Prod.mk.injEq, reduceCtorEq] at bounds <;>
        obtain ⟨rfl, rfl⟩ := bounds <;> simp only [size] at small ⊢ <;> split <;> omega
    simp [packInteger, bounds, inside, back]
  cases format <;> simp_all [pack, read, Value.integer?, bounds?]

end NumberFormat

/-! ## Texts -/

namespace Utf16

theorem unitBytes_unitOf (a b : UInt8) : unitBytes (unitOf a b) = [a, b] := by
  have small := b.toNat_lt
  have high : (a.toNat * 256 + b.toNat) / 256 = a.toNat := by omega
  have low : (a.toNat * 256 + b.toNat) % 256 = b.toNat := by omega
  simp [unitBytes, unitOf, high, low]

theorem unitOf_lt (a b : UInt8) : unitOf a b < 0x10000 := by
  have high := a.toNat_lt
  have low := b.toNat_lt
  rw [unitOf]
  omega

theorem encodeFrom_of_decodeFrom {position : Nat} (decoded : decodeFrom position b = .ok t)
    (start : Nat) : encodeFrom start t = .ok b := by
  fun_induction decodeFrom position b generalizing t start
  case case1 =>
    cases decoded
    rfl
  case case3 position a b unit high c d more low ih =>
    obtain ⟨rest, found, rfl⟩ := of_map_ok decoded
    have point : (pairPoint unit (unitOf c d)).val = 0x10000 + (unit - 0xD800) * 0x400 + (unitOf c d - 0xDC00) := by
      have first := unitOf_lt a b
      simp only [isHigh, isLow, Bool.and_eq_true, decide_eq_true_eq] at high low
      simp only [pairPoint, CodePoint.ofNat]
      omega
    simp only [isHigh, isLow, Bool.and_eq_true, decide_eq_true_eq] at high low
    have whole : (pairPoint unit (unitOf c d)).isSurrogate = false := by
      simp [CodePoint.isSurrogate, point]
      omega
    have bytes : pointBytes (pairPoint unit (unitOf c d)) = [a, b, c, d] := by
      rw [pointBytes, point, if_neg (by omega), show 0xD800 + (0x10000 + (unit - 0xD800) * 0x400 + (unitOf c d - 0xDC00) -
        0x10000) / 0x400 = unit by omega, show 0xDC00 + (0x10000 + (unit - 0xD800) * 0x400 + (unitOf c d - 0xDC00) -
        0x10000) % 0x400 = unitOf c d by omega, unitBytes_unitOf, unitBytes_unitOf]
      rfl
    simp [encodeFrom, whole, ih found, bytes]
  case case7 position a b rest unit high low ih =>
    obtain ⟨t, found, rfl⟩ := of_map_ok decoded
    have small := unitOf_lt a b
    have point : (CodePoint.ofNat unit).val = unit := by
      simp only [CodePoint.ofNat]
      omega
    simp only [isHigh, isLow, Bool.and_eq_true, decide_eq_true_eq] at high low
    have whole : (CodePoint.ofNat unit).isSurrogate = false := by
      simp [CodePoint.isSurrogate, point]
      omega
    have bytes : pointBytes (CodePoint.ofNat unit) = [a, b] := by
      rw [pointBytes, point, if_pos small, unitBytes_unitOf]
    simp [encodeFrom, whole, ih found, bytes]
  all_goals cases decoded

end Utf16

/-! ## Pieces -/

namespace Sized

/-- A piece of what is read: a length or number, or what follows it. -/
inductive Piece where
  | length (b : Bytes)
  | content (b : Bytes)

namespace Piece

def bytes : Piece → Bytes
  | .length b | .content b => b

def isNothing : Piece → Bool
  | .length b => ofBigEndian b = nothing
  | .content _ => false

def settled (p : Piece) : Bytes := if p.isNothing then bigEndian 4 0 else p.bytes

end Piece

def lengthAt (data : Bytes) (offset : Nat) : Piece := .length ((data.drop offset).take 4)

/-- How much follows the length at an offset. -/
def sizeAt (data : Bytes) (offset : Nat) : Nat := ofBigEndian (lengthAt data offset).settled

def textAt (data : Bytes) (offset : Nat) : List Piece :=
  [lengthAt data offset, .content ((data.drop (offset + 4)).take (sizeAt data offset))]

def textsAt (data : Bytes) : Nat → Nat → List Piece
  | 0, _ => []
  | count + 1, offset => textAt data offset ++ textsAt data count (offset + (4 + sizeAt data offset))

/-- The pieces that a value is read from at an offset. -/
def piecesAt (data : Bytes) (offset : Nat) : Encoding → List Piece
  | .number format => [.content ((data.drop offset).take format.size)]
  | .character => [.content ((data.drop offset).take 2)]
  | .text | .bytes => textAt data offset
  | .texts => lengthAt data offset :: textsAt data (sizeAt data offset) (offset + 4)
  | .unsent => []

theorem bytes_textAt (data : Bytes) (offset : Nat) :
    (textAt data offset).flatMap Piece.bytes = (data.drop offset).take (4 + sizeAt data offset) := by
  simp [textAt, lengthAt, Piece.bytes, List.take_add, List.drop_drop]

variable {data : Bytes} (short : data.length < 2 ^ 63) {offset : Nat}

include short

theorem of_readLength {length : Option Nat} (found : readLength data offset = .ok length) :
    offset + 4 ≤ data.length ∧ length.getD 0 = sizeAt data offset ∧
      packLength (sizeAt data offset) = .ok (lengthAt data offset).settled := by
  obtain ⟨b, window, isLength⟩ := readLength_ok_iff.mp found
  obtain ⟨inside, isPiece⟩ := (Bytes.window_ok_iff short).mp window
  have sized := Bytes.length_of_window short window
  have small := ofBigEndian_lt b
  rw [sized] at small
  refine ⟨inside, ?_⟩
  rw [sizeAt, Piece.settled, lengthAt, ← isPiece, ← isLength]
  simp only [Piece.isNothing, Piece.bytes, decide_eq_true_eq]
  split
  next => exact ⟨rfl, packLength_eq (by decide)⟩
  next isSome =>
    have below : ofBigEndian b < nothing := by
      simp only [nothing] at isSome ⊢
      omega
    refine ⟨rfl, (packLength_eq below).trans ?_⟩
    rw [← sized, bigEndian_ofBigEndian]

theorem of_readBytes (found : readBytes data offset = .ok (b, n)) :
    n = 4 + sizeAt data offset ∧ offset + n ≤ data.length ∧ b.length = sizeAt data offset ∧
      textAt data offset = [lengthAt data offset, .content b] ∧
      packLength (sizeAt data offset) = .ok (lengthAt data offset).settled := by
  obtain ⟨length, isLength, done⟩ := of_bind_ok found
  obtain ⟨inside, size, packed⟩ := of_readLength short isLength
  cases length with
  | none =>
    cases done
    simp only [Option.getD_none] at size
    rw [← size] at packed
    simp [textAt, ← size, inside, packed]
  | some length =>
    obtain ⟨content, taken, done⟩ := of_bind_ok done
    cases done
    have taken : take data (offset + 4 : Nat) length = .ok b := taken
    obtain ⟨inside, rfl⟩ := take_ok_iff.mp taken
    simp only [Option.getD_some] at size
    subst size
    refine ⟨rfl, by omega, ?_, rfl, packed⟩
    rw [List.length_take, List.length_drop]
    omega

theorem of_readText (found : readText data offset = .ok (t, n)) :
    n = 4 + sizeAt data offset ∧ packText t = .ok ((textAt data offset).flatMap Piece.settled) := by
  rw [readText_eq] at found
  obtain ⟨⟨b, size⟩, read, done⟩ := of_bind_ok found
  obtain ⟨t, decoded, done⟩ := of_bind_ok done
  cases done
  obtain ⟨isSize, -, sized, pieces, packed⟩ := of_readBytes short read
  have encoded : Utf16.encode t = .ok b := Utf16.encodeFrom_of_decodeFrom (of_mapError_ok decoded) 0
  refine ⟨isSize, ?_⟩
  simp [packText, encoded, sized, packed, pieces, Piece.settled, Piece.isNothing, Piece.bytes]

theorem of_readItems {count : Nat} {ts : List Text} (found : readItems data count offset = .ok (ts, n)) :
    ts.length = count ∧ (textsAt data count offset).flatMap Piece.bytes = (data.drop offset).take n ∧
      packTextValues (ts.map .text) = .ok ((textsAt data count offset).flatMap Piece.settled) := by
  induction count generalizing offset ts n with
  | zero =>
    cases found
    exact ⟨rfl, by simp [textsAt], rfl⟩
  | succ count ih =>
    obtain ⟨⟨t, size⟩, first, done⟩ := of_bind_ok found
    obtain ⟨⟨rest, sizes⟩, later, done⟩ := of_bind_ok done
    cases done
    obtain ⟨rfl, packed⟩ := of_readText short first
    obtain ⟨counted, bytes, packedLater⟩ := ih later
    refine ⟨by simp [counted], ?_, ?_⟩
    · rw [textsAt, List.flatMap_append, bytes_textAt, bytes, ← List.drop_drop, ← List.take_add]
    · simp [packTextValues, packTextValue, packed, packedLater, textsAt]

end Sized

/-! ## Values of named types -/

/-- The values of the type are told apart by their bytes: it has no floating-point numbers and no truths. -/
def Encoding.isExact : Encoding → Bool
  | .number format => format.bounds?.isSome
  | .unsent => false
  | _ => true

open Sized in
theorem packAs_of_unpackAs {registry : Registry} {own : Text → Unpacker} {type : Text} {encoding : Encoding}
    (known : Builtin.encoding? type = some encoding) (exact : encoding.isExact) {data : Bytes}
    (short : data.length < 2 ^ 63) {offset : Nat} {v : Value}
    (done : (unpackAs registry own type data offset).result = .ok (v, n)) (self : Except Fault Bytes) :
    (piecesAt data offset encoding).flatMap Piece.bytes = (data.drop offset).take n ∧
      packAs registry type v self = .ok ((piecesAt data offset encoding).flatMap Piece.settled) := by
  cases encoding <;> simp only [unpackAs, unpackBy, packAs, packBy, known, Logged.of] at done ⊢
  case number format =>
    have done : unpackNumber format data offset = .ok (v, n) := of_mapError_ok done
    obtain ⟨b, window, same⟩ := of_map_ok done
    cases same
    have sized := Bytes.length_of_window short window
    obtain ⟨-, rfl⟩ := (Bytes.window_ok_iff short).mp window
    simp [piecesAt, Piece.bytes, Piece.settled, Piece.isNothing, packNumberAs, NumberFormat.pack_read exact sized]
  case character =>
    obtain ⟨b, window, same⟩ := of_map_ok done
    cases same
    have window : data.window offset 2 = .ok b := of_mapError_ok window
    have sized := Bytes.length_of_window short window
    have small := ofBigEndian_lt b
    rw [sized] at small
    have number : characterNumber (.text [CodePoint.ofNat (ofBigEndian b)]) = .ok (NumberFormat.uint16.read b) := by
      have point : (CodePoint.ofNat (ofBigEndian b)).val = ofBigEndian b := by
        simp only [CodePoint.ofNat]
        omega
      have below : (ofBigEndian b : Int) ≤ 65535 := by omega
      simp [characterNumber, point, NumberFormat.read, NumberFormat.readInteger, NumberFormat.bounds?, below]
    obtain ⟨-, rfl⟩ := (Bytes.window_ok_iff short).mp window
    have packed : NumberFormat.uint16.pack (NumberFormat.uint16.read _) = _ := NumberFormat.pack_read rfl sized
    simp [piecesAt, Piece.bytes, Piece.settled, Piece.isNothing, number, packNumberAs, packed]
  case text =>
    obtain ⟨⟨t, size⟩, read, same⟩ := of_map_ok done
    cases same
    obtain ⟨rfl, packed⟩ := of_readText short read
    exact ⟨bytes_textAt data offset, packed⟩
  case bytes =>
    obtain ⟨⟨b, size⟩, read, same⟩ := of_map_ok done
    cases same
    obtain ⟨rfl, -, sized, pieces, packed⟩ := of_readBytes short read
    refine ⟨bytes_textAt data offset, ?_⟩
    simp [piecesAt, pieces, packBytesValue, Value.length, Value.toBytes, sized, packed, Piece.settled, Piece.isNothing,
      Piece.bytes]
  case texts =>
    obtain ⟨⟨ts, size⟩, read, same⟩ := of_map_ok done
    cases same
    obtain ⟨length, counted, read⟩ := of_bind_ok read
    obtain ⟨⟨items, sizes⟩, listed, same⟩ := of_bind_ok read
    cases same
    obtain ⟨inside, size, packed⟩ := of_readLength short counted
    rw [size] at listed
    have listed : readItems data (sizeAt data offset) (offset + 4 : Nat) = .ok (ts, sizes) := listed
    obtain ⟨count, bytes, packedItems⟩ := of_readItems short listed
    refine ⟨?_, ?_⟩
    · simp [piecesAt, bytes, lengthAt, Piece.bytes, List.take_add, List.drop_drop]
    · simp [piecesAt, packTextsValue, Value.toItems, count, packed, packedItems]
  case unsent => cases exact

example : (Builtin.table.filter (·.2.isExact)).map (·.1) = (["char", "uchar", "short", "ushort", "int", "uint", "long",
    "ulong", "qint8", "quint8", "qint16", "quint16", "qint32", "quint32", "qint64", "quint64", "qlonglong", "qulonglong",
    "QChar", "QString", "QByteArray", "QStringList"] : List Text) := by decide

namespace Module

open Sized

/-- A value that was read is packed as the bytes that it was read from, with zero for each length that stands for
nothing. So where no length does, other bytes are read as another value. -/
theorem pack_of_unpack (m : Module) (registry : Registry) {type : Text} {encoding : Encoding}
    (known : Builtin.encoding? type = some encoding) (exact : encoding.isExact) {data : Bytes}
    (short : data.length < 2 ^ 63) {offset : Nat} {v : Value} {n : Nat}
    (done : (m.unpack registry type data offset).result = .ok (v, n)) :
    (piecesAt data offset encoding).flatMap Piece.bytes = (data.drop offset).take n ∧
    m.pack registry type v = .ok ((piecesAt data offset encoding).flatMap Piece.settled) ∧
    ((∀ p ∈ piecesAt data offset encoding, ¬ p.isNothing) →
      m.pack registry type v = .ok ((data.drop offset).take n) ∧
      ∀ (other : Bytes) (place size : Nat), other.length < 2 ^ 63 →
        (m.unpack registry type other place).result = .ok (v, size) →
        (∀ p ∈ piecesAt other place encoding, ¬ p.isNothing) →
        (other.drop place).take size = (data.drop offset).take n) := by
  have settled {data : Bytes} {offset : Nat} (whole : ∀ p ∈ piecesAt data offset encoding, ¬ p.isNothing) :
      (piecesAt data offset encoding).flatMap Piece.settled = (piecesAt data offset encoding).flatMap Piece.bytes :=
    List.flatMap_congr fun p among => if_neg (whole p among)
  obtain ⟨bytes, packed⟩ := packAs_of_unpackAs known exact short done (m.packOwn registry v)
  refine ⟨bytes, packed, fun whole => ?_⟩
  rw [settled whole, bytes] at packed
  refine ⟨packed, fun other place size otherShort again otherWhole => ?_⟩
  obtain ⟨otherBytes, otherPacked⟩ := packAs_of_unpackAs known exact otherShort again (m.packOwn registry v)
  rw [settled otherWhole, otherBytes, packed] at otherPacked
  exact (Except.ok.inj otherPacked).symm

theorem pack_of_unpack_nothing :
    let data : Bytes := [7, 0, 0, 0, 2, 255, 255, 255, 255, 0, 0, 0, 2, 0, 233, 9]
    (Module.unpack {} {} "QStringList" data (1 : Nat)).result = .ok (.list [.text [], .text "é"], 14) ∧
      Module.pack {} {} "QStringList" (.list [.text [], .text "é"]) =
        .ok [0, 0, 0, 2, 0, 0, 0, 0, 0, 0, 0, 2, 0, 233] := by
  intro data
  have done : (Module.unpack {} {} "QStringList" data (1 : Nat)).result = .ok (.list [.text [], .text "é"], 14) := by
    set_option maxRecDepth 4000 in rfl
  refine ⟨done, ?_⟩
  have known : Builtin.encoding? "QStringList" = some .texts := rfl
  rw [(pack_of_unpack {} {} known rfl (by decide) done).2.1]
  rfl

end Module
end Counterpart
