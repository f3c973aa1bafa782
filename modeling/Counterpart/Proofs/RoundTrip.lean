import Counterpart.Proofs.Results
import Counterpart.Wire.Codec

/-!
What is packed is read back. Bytes that stand somewhere in the data are read from there, whatever stands before
and after them, and as many bytes are taken as were packed. Main statement: a list of arguments comes back as it
was, provided that each argument fits the type it is packed as.
-/
namespace Counterpart

variable {b data first later : Bytes} {c : CodePoint} {greatest : Int} {ts : List Text} {offset n : Nat}
variable {format : NumberFormat} {t : Text} {v : Value}

/-! ## Bytes in their place -/

/-- The bytes stand at an offset of data that is short enough to be addressed. -/
structure Bytes.Stands (b data : Bytes) (offset : Nat) : Prop where
  split : ∃ before after, data = before ++ b ++ after ∧ before.length = offset
  short : data.length < 2 ^ 63

theorem Bytes.window_ok_iff {size : Nat} (short : data.length < 2 ^ 63) :
    data.window offset size = .ok b ↔ offset + size ≤ data.length ∧ b = (data.drop offset).take size := by
  have start : (if (offset : Int) < 0 then (offset : Int) + data.length else offset) = offset := if_neg (by omega)
  by_cases inside : offset + size ≤ data.length
  · have index : Value.isIndex (offset : Int) = true := by simp [Value.isIndex]; omega
    simp only [window, index, start, Int.toNat_natCast]
    rw [if_neg (by simp), if_neg (by omega), Except.ok.injEq]
    exact ⟨fun same => ⟨inside, same.symm⟩, fun found => found.2.symm⟩
  · simp only [window, start, inside, false_and, iff_false]
    split
    · exact nofun
    · rw [if_pos (by omega)]
      exact nofun

theorem Bytes.length_of_window {size : Nat} (short : data.length < 2 ^ 63)
    (found : data.window offset size = .ok b) : b.length = size := by
  obtain ⟨inside, rfl⟩ := (window_ok_iff short).mp found
  rw [List.length_take, List.length_drop]
  omega

theorem Bytes.window_add {size more : Nat} (short : data.length < 2 ^ 63) : data.window offset (size + more) = .ok b ↔
      ∃ first later, data.window offset size = .ok first ∧ data.window (offset + size) more = .ok later ∧
        b = first ++ later := by
  have place : (offset : Int) + size = (offset + size : Nat) := rfl
  simp only [place, window_ok_iff short]
  constructor
  · rintro ⟨inside, rfl⟩
    exact ⟨_, _, ⟨by omega, rfl⟩, ⟨by omega, rfl⟩, by rw [List.take_add, List.drop_drop]⟩
  · rintro ⟨_, _, ⟨-, rfl⟩, ⟨inside, rfl⟩, rfl⟩
    exact ⟨by omega, by rw [List.take_add, List.drop_drop]⟩

namespace Bytes.Stands

theorem between {before after : Bytes} (short : (before ++ b ++ after).length < 2 ^ 63) :
    b.Stands (before ++ b ++ after) before.length := ⟨⟨before, after, rfl, rfl⟩, short⟩

theorem inside (stands : b.Stands data offset) : offset + b.length ≤ data.length := by
  obtain ⟨⟨before, after, rfl, rfl⟩, -⟩ := stands
  simp

theorem left (stands : (first ++ later).Stands data offset) : first.Stands data offset := by
  obtain ⟨⟨before, after, rfl, rfl⟩, short⟩ := stands
  exact ⟨⟨before, later ++ after, by simp, rfl⟩, short⟩

theorem right (stands : (first ++ later).Stands data offset) : later.Stands data (offset + first.length) := by
  obtain ⟨⟨before, after, rfl, rfl⟩, short⟩ := stands
  exact ⟨⟨before ++ first, after, by simp, by simp⟩, short⟩

theorem take_drop (stands : b.Stands data offset) : (data.drop offset).take b.length = b := by
  obtain ⟨⟨before, after, rfl, rfl⟩, -⟩ := stands
  simp

theorem window (stands : b.Stands data offset) : data.window offset b.length = .ok b :=
  (window_ok_iff stands.short).mpr ⟨stands.inside, stands.take_drop.symm⟩

theorem between_eq (stands : b.Stands data offset) : data.between offset (offset + b.length) = b := by
  have inside := stands.inside
  have start : data.place offset = offset := by rw [place, if_neg (by omega)]; omega
  have stop : data.place (offset + b.length) = offset + b.length := by rw [place, if_neg (by omega)]; omega
  rw [Bytes.between, start, stop, List.drop_take, Nat.add_sub_cancel_left, stands.take_drop]

end Bytes.Stands

def Unpacker.Reads (unpack : Unpacker) (v : Value) (b : Bytes) : Prop :=
  ∀ data (offset : Nat), b.Stands data offset → (unpack data offset).result = .ok (v, b.length)

/-! ## Numbers -/

inductive Encoding.Fits : Encoding → Value → Prop
  | truth (b : Bool) : Fits (.number .truth) (.truth b)
  | integer {format : NumberFormat} {least greatest i : Int} (bounds : format.bounds? = some (least, greatest))
    (lower : least ≤ i) (upper : i ≤ greatest) : Fits (.number format) (.integer i)
  | character {c : CodePoint} (small : c.val < 0x10000) : Fits .character (.text [c])
  | text {t : Text} (scalar : t.isScalar) (short : (Utf16.encodeUnits t).length < Sized.nothing) :
    Fits .text (.text t)
  | bytes {b : Bytes} (short : b.length < Sized.nothing) : Fits .bytes (.bytes b)
  | texts {ts : List Text} (few : ts.length < Sized.nothing) (scalar : ∀ t ∈ ts, t.isScalar)
    (short : ∀ t ∈ ts, (Utf16.encodeUnits t).length < Sized.nothing) : Fits .texts (.list (ts.map .text))

namespace NumberFormat

theorem readInteger_packInteger {least i : Int}
    (bounds : format.bounds? = some (least, greatest)) (lower : least ≤ i) (upper : i ≤ greatest) :
    ∃ b, format.packInteger i = .ok b ∧ b.length = format.size ∧ format.readInteger b = i := by
  have packed : format.packInteger i = .ok (bigEndian format.size (i % 256 ^ format.size).toNat) := by
    simp [packInteger, bounds, lower, upper]
  refine ⟨_, packed, length_bigEndian _ _, ?_⟩
  have digits : ofBigEndian (bigEndian format.size (i % 256 ^ format.size).toNat) = (i % 256 ^ format.size).toNat := by
    apply ofBigEndian_bigEndian
    have positive : (0 : Int) < 256 ^ format.size := Int.pow_pos (by decide)
    have small := Int.emod_lt_of_pos i positive
    have notNegative := Int.emod_nonneg i (Int.ne_of_gt positive)
    rw [Int.toNat_lt notNegative, Int.natCast_pow]
    exact small
  rw [readInteger, digits, bounds]
  cases format <;> simp only [bounds?, Option.some.injEq, Prod.mk.injEq, reduceCtorEq] at bounds <;>
    obtain ⟨rfl, rfl⟩ := bounds <;> simp only [size] <;> omega

theorem packInteger_natCast (bounds : format.bounds? = some (0, greatest)) (upper : (n : Int) ≤ greatest) :
    format.packInteger n = .ok (bigEndian format.size n) := by
  have digits : ((n : Int) % 256 ^ format.size).toNat = n := by
    cases format <;> simp only [bounds?, Option.some.injEq, Prod.mk.injEq, reduceCtorEq] at bounds <;>
      obtain ⟨lower, rfl⟩ := bounds <;> simp only [size] <;> omega
  simp [packInteger, bounds, upper, digits]

theorem read_pack (fits : Encoding.Fits (.number format) v) :
    ∃ b, format.pack v = .ok b ∧ b.length = format.size ∧ format.read b = v := by
  cases fits with
  | truth b => cases b <;> exact ⟨_, rfl, rfl, rfl⟩
  | integer bounds lower upper =>
    obtain ⟨b, packed, length, back⟩ := readInteger_packInteger bounds lower upper
    refine ⟨b, ?_, length, ?_⟩ <;> cases format <;> simp_all [pack, read, Value.integer?, bounds?]

end NumberFormat

/-! ## Texts -/

namespace Utf16

private theorem unitOf_unitBytes {unit : Nat} (small : unit < 0x10000) :
    unitOf (UInt8.ofNat (unit / 256)) (UInt8.ofNat (unit % 256)) = unit := by
  simp only [unitOf, UInt8.toNat_ofNat']
  omega

private theorem ofNat_val (known : c ≠ CodePoint.absent) : CodePoint.ofNat c.val = c := by
  have bound := c.isLt
  have different : c.val ≠ 0x110000 := fun same => known (Fin.ext same)
  apply Fin.ext
  simp only [CodePoint.ofNat]
  omega

theorem encodeFrom_of_isScalar (scalar : t.isScalar) (position : Nat) :
    encodeFrom position t = .ok (encodeUnits t) := by
  induction t generalizing position with
  | nil => rfl
  | cons c rest ih =>
    simp only [Text.isScalar, List.all_cons, Bool.and_eq_true, Bool.not_eq_true'] at scalar
    rw [encodeFrom, if_neg (by simp [scalar.1.1]), ih scalar.2]
    rfl

private theorem decodeFrom_pointBytes (whole : c.isSurrogate = false) (known : c ≠ CodePoint.absent)
    (position : Nat) (rest : Bytes) :
    ∃ next, decodeFrom position (pointBytes c ++ rest) = (decodeFrom next rest).map (c :: ·) := by
  have bound := c.isLt
  have different : c.val ≠ 0x110000 := fun same => known (Fin.ext same)
  simp only [CodePoint.isSurrogate, Bool.and_eq_false_iff, decide_eq_false_iff_not] at whole
  by_cases single : c.val < 0x10000
  · have noHigh : isHigh c.val = false := by simp [isHigh]; omega
    have noLow : isLow c.val = false := by simp [isLow]; omega
    refine ⟨position + 2, ?_⟩
    rw [pointBytes, if_pos single, unitBytes]
    simp [decodeFrom.eq_def position, unitOf_unitBytes single, noHigh, noLow, ofNat_val known]
  · have high : isHigh (0xD800 + (c.val - 0x10000) / 0x400) = true := by simp [isHigh]; omega
    have low : isLow (0xDC00 + (c.val - 0x10000) % 0x400) = true := by simp [isLow]; omega
    have pair : pairPoint (0xD800 + (c.val - 0x10000) / 0x400) (0xDC00 + (c.val - 0x10000) % 0x400) = c := by
      rw [pairPoint, show 0x10000 + (0xD800 + (c.val - 0x10000) / 0x400 - 0xD800) * 0x400 +
        (0xDC00 + (c.val - 0x10000) % 0x400 - 0xDC00) = c.val by omega, ofNat_val known]
    refine ⟨position + 4, ?_⟩
    rw [pointBytes, if_neg single, unitBytes, unitBytes]
    simp only [List.cons_append, List.nil_append, decodeFrom.eq_def position]
    simp [unitOf_unitBytes (show 0xD800 + (c.val - 0x10000) / 0x400 < 0x10000 by omega),
      unitOf_unitBytes (show 0xDC00 + (c.val - 0x10000) % 0x400 < 0x10000 by omega), high, low, pair]

theorem decodeFrom_encodeUnits (scalar : t.isScalar) (position : Nat) :
    decodeFrom position (encodeUnits t) = .ok t := by
  induction t generalizing position with
  | nil => rfl
  | cons c rest ih =>
    simp only [Text.isScalar, List.all_cons, Bool.and_eq_true, Bool.not_eq_true', decide_eq_true_eq] at scalar
    obtain ⟨next, decoded⟩ := decodeFrom_pointBytes scalar.1.1 scalar.1.2 position (encodeUnits rest)
    rw [encodeUnits, List.flatMap_cons, ← encodeUnits, decoded, ih scalar.2]
    rfl

end Utf16

namespace Sized

theorem packLength_eq (small : n < nothing) : packLength n = .ok (bigEndian 4 n) := by
  have upper : (n : Int) ≤ 4294967295 := by simp only [nothing] at small; omega
  rw [packLength, NumberFormat.packInteger_natCast rfl upper]
  rfl

theorem readLength_eq (small : n < nothing) (stands : (bigEndian 4 n).Stands data offset) :
    readLength data offset = .ok (some n) := by
  have number : ofBigEndian (bigEndian 4 n) = n :=
    ofBigEndian_bigEndian 4 n (Nat.lt_of_lt_of_le small (by decide))
  have found := stands.window
  rw [length_bigEndian] at found
  generalize bigEndian 4 n = b at number found
  subst number
  rw [readLength, found]
  exact congrArg Except.ok (if_neg (Nat.ne_of_lt small))

theorem take_content (stands : (bigEndian 4 n ++ b).Stands data offset) :
    take data (offset + 4) b.length = .ok b := by
  have content := stands.right
  rw [length_bigEndian] at content
  have inside := content.inside
  rw [show (offset : Int) + 4 = (offset + 4 : Nat) from rfl, take, if_neg (by omega), content.between_eq]

theorem readText_packText (scalar : t.isScalar) (short : (Utf16.encodeUnits t).length < nothing) :
    ∃ b, packText t = .ok b ∧ ∀ data (offset : Nat), b.Stands data offset →
      readText data offset = .ok (t, b.length) := by
  refine ⟨bigEndian 4 (Utf16.encodeUnits t).length ++ Utf16.encodeUnits t, ?_, ?_⟩
  · simp [packText, Utf16.encode, Utf16.encodeFrom_of_isScalar scalar, packLength_eq short]
  · intro data offset stands
    rw [readText, readLength_eq short stands.left]
    simp [take_content stands, Utf16.decode, Utf16.decodeFrom_encodeUnits scalar, length_bigEndian]

theorem readBytes_packBytes (short : b.length < nothing) :
    ∃ packed, packBytesValue (.bytes b) = .ok packed ∧ ∀ data (offset : Nat), packed.Stands data offset →
      readBytes data offset = .ok (b, packed.length) := by
  refine ⟨bigEndian 4 b.length ++ b, ?_, ?_⟩
  · simp [packBytesValue, Value.length, Value.toBytes, packLength_eq short]
  · intro data offset stands
    rw [readBytes, readLength_eq short stands.left]
    simp [take_content stands, length_bigEndian]

private theorem readItems_packTextValues (scalar : ∀ t ∈ ts, t.isScalar)
    (short : ∀ t ∈ ts, (Utf16.encodeUnits t).length < nothing) :
    ∃ b, packTextValues (ts.map .text) = .ok b ∧ ∀ data (offset : Nat), b.Stands data offset →
      readItems data ts.length offset = .ok (ts, b.length) := by
  induction ts with
  | nil => exact ⟨[], rfl, fun _ _ _ => rfl⟩
  | cons t rest ih =>
    obtain ⟨first, packed, back⟩ := readText_packText (scalar t (by simp)) (short t (by simp))
    obtain ⟨later, packedLater, backLater⟩ :=
      ih (fun x there => scalar x (by simp [there])) fun x there => short x (by simp [there])
    refine ⟨first ++ later, ?_, ?_⟩
    · simp [packTextValues, packTextValue, packed, packedLater]
    · intro data offset stands
      rw [List.length_cons, readItems, back data offset stands.left]
      simp only [ok_bind]
      rw [← Int.natCast_add, backLater data _ stands.right]
      simp

theorem readTexts_packTexts (few : ts.length < nothing) (scalar : ∀ t ∈ ts, t.isScalar)
    (short : ∀ t ∈ ts, (Utf16.encodeUnits t).length < nothing) :
    ∃ b, packTextsValue (.list (ts.map .text)) = .ok b ∧ ∀ data (offset : Nat), b.Stands data offset →
      readTexts data offset = .ok (ts, b.length) := by
  obtain ⟨content, packed, back⟩ := readItems_packTextValues scalar short
  refine ⟨bigEndian 4 ts.length ++ content, ?_, ?_⟩
  · simp [packTextsValue, Value.toItems, packLength_eq few, packed]
  · intro data offset stands
    have items := back data _ stands.right
    rw [length_bigEndian] at items
    rw [readTexts, readLength_eq few stands.left]
    simp only [ok_bind, Option.getD_some]
    rw [show (offset : Int) + 4 = (offset + 4 : Nat) from rfl, items]
    simp [length_bigEndian]

end Sized

/-! ## Values of named types -/

theorem unpackNumber_eq (length : b.length = format.size) (back : format.read b = v) (stands : b.Stands data offset) :
    unpackNumber format data offset = .ok (v, b.length) := by
  rw [unpackNumber, ← length, stands.window]
  simp [back]

section Builtin

variable {γ : Type} {type : Text} (registry : Registry γ) (packs : RegisteredType γ → Value → Except Fault Bytes)

private theorem reads_number (known : Builtin.encoding? type = some (.number format))
    (fits : Encoding.Fits (.number format) v) :
    ∃ b, packBy registry packs type v = .ok b ∧ ∀ unpacks, (unpackBy registry unpacks type).Reads v b := by
  obtain ⟨b, packed, length, back⟩ := NumberFormat.read_pack fits
  refine ⟨b, by simp [packBy, known, packNumberAs, packed], fun unpacks data offset stands => ?_⟩
  simp [unpackBy, known, unpackNumber_eq length back stands]

private theorem reads_character (known : Builtin.encoding? type = some .character) (small : c.val < 0x10000) :
    ∃ b, packBy registry packs type (.text [c]) = .ok b ∧
      ∀ unpacks, (unpackBy registry unpacks type).Reads (.text [c]) b := by
  have packed : NumberFormat.uint16.pack (.integer c.val) = .ok (bigEndian 2 c.val) := by
    have digits := NumberFormat.packInteger_natCast (show NumberFormat.uint16.bounds? = some (0, 65535) from rfl)
      (show (c.val : Int) ≤ 65535 by omega)
    simp [NumberFormat.pack, Value.integer?, digits, NumberFormat.size]
  have number : ofBigEndian (bigEndian 2 c.val) = c.val := ofBigEndian_bigEndian 2 c.val small
  have point : CodePoint.ofNat c.val = c := Fin.ext (by simp only [CodePoint.ofNat]; omega)
  refine ⟨bigEndian 2 c.val, by simp [packBy, known, characterNumber, packNumberAs, packed], ?_⟩
  intro unpacks data offset stands
  have window := stands.window
  rw [length_bigEndian] at window
  simp [unpackBy, known, window, number, point, length_bigEndian]

private theorem reads_text (known : Builtin.encoding? type = some .text) (scalar : t.isScalar)
    (short : (Utf16.encodeUnits t).length < Sized.nothing) :
    ∃ b, packBy registry packs type (.text t) = .ok b ∧
      ∀ unpacks, (unpackBy registry unpacks type).Reads (.text t) b := by
  obtain ⟨b, packed, back⟩ := Sized.readText_packText scalar short
  refine ⟨b, by simp [packBy, known, Sized.packTextValue, packed], fun unpacks data offset stands => ?_⟩
  simp [unpackBy, known, back data offset stands]

private theorem reads_bytes (known : Builtin.encoding? type = some .bytes) {content : Bytes}
    (short : content.length < Sized.nothing) :
    ∃ b, packBy registry packs type (.bytes content) = .ok b ∧
      ∀ unpacks, (unpackBy registry unpacks type).Reads (.bytes content) b := by
  obtain ⟨b, packed, back⟩ := Sized.readBytes_packBytes short
  refine ⟨b, by simp [packBy, known, packed], fun unpacks data offset stands => ?_⟩
  simp [unpackBy, known, back data offset stands]

private theorem reads_texts (known : Builtin.encoding? type = some .texts)
    (few : ts.length < Sized.nothing) (scalar : ∀ t ∈ ts, t.isScalar)
    (short : ∀ t ∈ ts, (Utf16.encodeUnits t).length < Sized.nothing) :
    ∃ b, packBy registry packs type (.list (ts.map .text)) = .ok b ∧
      ∀ unpacks, (unpackBy registry unpacks type).Reads (.list (ts.map .text)) b := by
  obtain ⟨b, packed, back⟩ := Sized.readTexts_packTexts few scalar short
  refine ⟨b, by simp [packBy, known, packed], fun unpacks data offset stands => ?_⟩
  simp [unpackBy, known, back data offset stands]

theorem unpackBy_packBy {encoding : Encoding} (known : Builtin.encoding? type = some encoding)
    (fits : encoding.Fits v) :
    ∃ b, packBy registry packs type v = .ok b ∧ ∀ unpacks, (unpackBy registry unpacks type).Reads v b := by
  cases fits with
  | truth b => exact reads_number registry packs known (.truth b)
  | integer bounds lower upper => exact reads_number registry packs known (.integer bounds lower upper)
  | character small => exact reads_character registry packs known small
  | text scalar short => exact reads_text registry packs known scalar short
  | bytes short => exact reads_bytes registry packs known short
  | texts few scalar short => exact reads_texts registry packs known few scalar short

end Builtin

/-! ## Lists of arguments -/

section

variable {γ : Type} {registry : Registry γ} {packs : RegisteredType γ → Value → Except Fault Bytes}
variable {unpacks : RegisteredType γ → Unpacker}

/-- The value is one of a type that travels: it fits the builtin type of that name, or the codec registered under
the name packs it to bytes from which it reads it back. The codec can be any. -/
inductive Registry.Carries (registry : Registry γ) (packs : RegisteredType γ → Value → Except Fault Bytes)
    (unpacks : RegisteredType γ → Unpacker) : Text → Value → Prop
  | builtin {type : Text} {encoding : Encoding} {v : Value} (known : Builtin.encoding? type = some encoding)
    (fits : encoding.Fits v) : Carries registry packs unpacks type v
  | registered {type : Text} {known : RegisteredType γ} {v : Value} {b : Bytes} (other : Builtin.encoding? type = none)
    (found : registry.lookup type = some known) (packed : packs known v = .ok b) (back : (unpacks known).Reads v b) :
    Carries registry packs unpacks type v

theorem Registry.Carries.reads {type : Text} (carried : registry.Carries packs unpacks type v) :
    ∃ b, packBy registry packs type v = .ok b ∧ (unpackBy registry unpacks type).Reads v b := by
  cases carried with
  | builtin known fits =>
    obtain ⟨b, packed, back⟩ := unpackBy_packBy registry packs known fits
    exact ⟨b, packed, back unpacks⟩
  | @registered _ _ b other found packed back =>
    refine ⟨b, by simp [packBy, other, found, packed], fun data offset stands => ?_⟩
    simp [unpackBy, other, found, back data offset stands]

private theorem unpackEach_packEach {types : List Text} {values : List Value}
    (carried : List.Forall₂ (registry.Carries packs unpacks) types values) :
    ∃ b, packEach (packBy registry packs) (types.zip values) = .ok b ∧ ∀ data (offset : Nat), b.Stands data offset →
      (unpackEach (unpackBy registry unpacks) types data offset).result = .ok (values, b.length) := by
  induction carried with
  | nil => exact ⟨[], rfl, fun _ _ _ => rfl⟩
  | cons first _ ih =>
    obtain ⟨b, packed, back⟩ := first.reads
    obtain ⟨later, packedLater, backLater⟩ := ih
    refine ⟨b ++ later, by simp [packEach, packed, packedLater], fun data offset stands => ?_⟩
    have rest := backLater data _ stands.right
    rw [Int.natCast_add] at rest
    simp [unpackEach, back data offset stands.left, rest]

end

/-- A list of arguments comes back as it was packed, with as many bytes as were packed, whatever stands before and
after it, and whatever the codecs of registered types are. No string of bytes is longer than the greatest index, which
is below `2 ^ 63`. -/
theorem unpackArguments_packArguments {γ : Type} {registry : Registry γ}
    {packs : RegisteredType γ → Value → Except Fault Bytes} {unpacks : RegisteredType γ → Unpacker}
    {types : List Text} {values : List Value}
    (carried : List.Forall₂ (registry.Carries packs unpacks) types values) :
    ∃ b, packArgumentsBy (packBy registry packs) types values = .ok b ∧ ∀ before after : Bytes,
      (before ++ b ++ after).length < 2 ^ 63 →
      (unpackEach (unpackBy registry unpacks) types (before ++ b ++ after) before.length).result =
        .ok (values, b.length) := by
  obtain ⟨b, packed, back⟩ := unpackEach_packEach carried
  refine ⟨b, ?_, fun before after short => back _ _ (.between short)⟩
  rw [packArgumentsBy, if_pos carried.length_eq, packed]

/-- The classes of a module are one kind of codecs. -/
theorem Module.pack_eq_packBy (m : Module) (registry : Registry) :
    m.pack registry = packBy registry fun known v => known.pack v (m.packOwn registry v) := by
  funext type v
  rw [pack, packAs]
  rfl

theorem Module.unpack_eq_unpackBy (m : Module) (registry : Registry) :
    m.unpack registry =
      unpackBy registry fun known data => known.unpack (m.unpackOwn registry (m.unpackDepth data)) data := by
  funext type data offset
  simp only [unpack, unpackAs, unpackBy]

def letterRegistry (γ : Type) (codec : γ) : Registry γ := (Registry.register {} "A" (.foreign "A") codec).2

def packLetter : Value → Except Fault Bytes
  | .text [c] => .ok [UInt8.ofNat c.val]
  | v => .error (v.lacks "pack")

def unpackLetter : Unpacker := fun data offset =>
  Logged.of ((data.window offset 1).map fun b => (.text (b.map fun byte => CodePoint.ofNat byte.toNat), 1))

theorem unpackArguments_packArguments_mixed :
    (∃ b, ({} : Module).packArguments (letterRegistry Codec .own) ["int", "A", "QStringList"]
        [.integer (-5), .foreign "A" 7, .list [.text "y"]] = .ok b ∧
      ∀ before after : Bytes, (before ++ b ++ after).length < 2 ^ 63 →
        (({} : Module).unpackArguments (letterRegistry Codec .own) ["int", "A", "QStringList"] (before ++ b ++ after)
          before.length).result = .ok ([.integer (-5), .foreign "A" 7, .list [.text "y"]], b.length)) ∧
    ∃ b, packArgumentsBy (packBy (letterRegistry Unit ()) fun _ => packLetter) ["A", "QString"]
        [.text "q", .text "x😀"] = .ok b ∧
      ∀ before after : Bytes, (before ++ b ++ after).length < 2 ^ 63 →
        (unpackEach (unpackBy (letterRegistry Unit ()) fun _ => unpackLetter) ["A", "QString"] (before ++ b ++ after)
          before.length).result = .ok ([.text "q", .text "x😀"], b.length) := by
  have number : Encoding.Fits (.number .int32) (.integer (-5)) := .integer rfl (by decide) (by decide)
  have text : Encoding.Fits .text (.text "x😀") := .text (by decide) (by decide +kernel)
  have texts : Encoding.Fits .texts (.list (["y"].map .text)) :=
    .texts (by decide +kernel) (by decide) (by decide +kernel)
  have other : Builtin.encoding? "A" = none := by decide +kernel
  constructor
  · have found : (letterRegistry Codec .own).lookup "A" = some ⟨.foreign "A", 1024, .own⟩ := by decide +kernel
    rw [Module.packArguments, Module.unpackArguments, Module.pack_eq_packBy, Module.unpack_eq_unpackBy]
    refine unpackArguments_packArguments (.cons (.builtin (by decide +kernel) number)
      (.cons (.registered (b := [65, 7]) other found rfl fun data offset stands => ?_)
        (.cons (.builtin (by decide +kernel) texts) .nil)))
    have window := stands.window
    simp only [List.length_cons, List.length_nil] at window
    simp [RegisteredType.unpack, unpackForeign, window, ofBigEndian]
  · have found : (letterRegistry Unit ()).lookup "A" = some ⟨.foreign "A", 1024, ()⟩ := by decide +kernel
    refine unpackArguments_packArguments (.cons (.registered (b := [113]) other found rfl fun data offset stands => ?_)
      (.cons (.builtin (by decide +kernel) text) .nil))
    have window := stands.window
    simp only [List.length_cons, List.length_nil] at window
    simp [unpackLetter, window]
    rfl

end Counterpart
