import Counterpart.Module.Register
import Counterpart.Proofs.Batching
import Counterpart.Proofs.Members
import Mathlib.Logic.Relation

/-!
What is read depends on nothing but the bytes that are taken. Every reading takes bytes that lie inside the data, and
gives the same wherever these bytes stand. A class of the unit may ask other classes on the way, so the depth to
which it may ask is compared as well: a class that is read at all does not ask for itself.
-/
namespace Counterpart

variable {data other : Bytes} {attributes : List Parameter} {vs : List Value} {offset n place : Nat} {a : Parameter}
variable {cls type outer : Text} {α : Type} {v : Value × Nat}

/-! ## Readings -/

/-- What reads something at an offset, and tells how many bytes it takes. -/
abbrev Reading (α : Type) := Bytes → Int → Except Fault (α × Nat)

private theorem slice_of_slice {k size : Nat}
    (same : (other.drop place).take n = (data.drop offset).take n) (inside : k + size ≤ n) :
    (other.drop (place + k)).take size = (data.drop (offset + k)).take size := by
  have part (b : Bytes) (start : Nat) :
      (b.drop (start + k)).take size = (((b.drop start).take n).drop k).take size := by
    rw [List.drop_take, List.take_take, List.drop_drop, Nat.min_eq_left (by omega)]
  rw [part, part, same]

private theorem inside_of_slice
    (same : (other.drop place).take n = (data.drop offset).take n) (inside : offset + n ≤ data.length)
    (positive : 0 < n) : place + n ≤ other.length := by
  have lengths := congrArg List.length same
  simp only [List.length_take, List.length_drop] at lengths
  omega

namespace Reading

variable {β γ : Type}

/-- What a reading gives comes from bytes inside the data, and is given again wherever these bytes stand. -/
def RepeatedBy (again read : Reading α) : Prop :=
  ∀ ⦃data : Bytes⦄ ⦃offset : Nat⦄ ⦃a : α⦄ ⦃n : Nat⦄, data.length < 2 ^ 63 → read data offset = .ok (a, n) →
    (n = 0 ∨ offset + n ≤ data.length) ∧ ∀ ⦃other : Bytes⦄ ⦃place : Nat⦄, other.length < 2 ^ 63 →
      (other.drop place).take n = (data.drop offset).take n → again other place = .ok (a, n)

theorem repeatedBy_const (a : α) : RepeatedBy (fun _ _ => .ok (a, 0)) (fun _ _ => .ok (a, 0)) := by
  intro data offset b n _ done
  cases done
  exact ⟨.inl rfl, fun _ _ _ _ => rfl⟩

theorem repeatedBy_fail (again : Reading α) (fault : Bytes → Int → Fault) :
    RepeatedBy again fun data offset => .error (fault data offset) := by
  intro data offset a n _ done
  cases done

theorem repeatedBy_window {size : Nat} (positive : 0 < size) (f : Bytes → α) :
    RepeatedBy (fun data offset => (data.window offset size).map fun b => (f b, size))
      (fun data offset => (data.window offset size).map fun b => (f b, size)) := by
  intro data offset a n short done
  obtain ⟨b, found, same⟩ := of_map_ok done
  cases same
  obtain ⟨inside, rfl⟩ := (Bytes.window_ok_iff short).mp found
  refine ⟨.inr inside, fun other place otherShort same => ?_⟩
  have again := (Bytes.window_ok_iff otherShort).mpr ⟨inside_of_slice same inside positive, rfl⟩
  simp [again, same]

variable {read again : Reading α}

theorem RepeatedBy.map (repeated : RepeatedBy again read) (f : α → β) :
    RepeatedBy (fun data offset => (again data offset).map fun (a, n) => (f a, n))
      (fun data offset => (read data offset).map fun (a, n) => (f a, n)) := by
  intro data offset b n short done
  obtain ⟨⟨a, size⟩, found, same⟩ := of_map_ok done
  cases same
  obtain ⟨inside, elsewhere⟩ := repeated short found
  exact ⟨inside, fun other place otherShort same => by simp [elsewhere otherShort same]⟩

theorem RepeatedBy.mapError (repeated : RepeatedBy again read) (rename : Int → Fault → Fault) :
    RepeatedBy (fun data offset => (again data offset).mapError (rename offset))
      (fun data offset => (read data offset).mapError (rename offset)) := by
  intro data offset a n short done
  obtain ⟨inside, elsewhere⟩ := repeated short (of_mapError_ok done)
  exact ⟨inside, fun other place otherShort same => by simp [elsewhere otherShort same]⟩

theorem RepeatedBy.check (repeated : RepeatedBy again read) {f : Int → α → Except Fault β}
    (steady : ∀ offset place a b, f offset a = .ok b → f place a = .ok b) :
    RepeatedBy (fun data offset => do let (a, n) ← again data offset; let b ← f offset a; return (b, n))
      (fun data offset => do let (a, n) ← read data offset; let b ← f offset a; return (b, n)) := by
  intro data offset b n short done
  obtain ⟨⟨a, size⟩, found, done⟩ := of_bind_ok done
  obtain ⟨_, checked, done⟩ := of_bind_ok done
  cases done
  obtain ⟨inside, elsewhere⟩ := repeated short found
  refine ⟨inside, fun other place otherShort same => ?_⟩
  simp [elsewhere otherShort same, steady _ place _ _ checked]

theorem RepeatedBy.andThen (repeated : RepeatedBy again read) {next after : α → Reading β}
    (later : ∀ a, RepeatedBy (after a) (next a)) (join : α → β → γ) :
    RepeatedBy
      (fun data offset => do
        let (a, n) ← again data offset
        let (b, size) ← after a data (offset + n)
        return (join a b, n + size))
      (fun data offset => do
        let (a, n) ← read data offset
        let (b, size) ← next a data (offset + n)
        return (join a b, n + size)) := by
  intro data offset c total short done
  obtain ⟨⟨a, n⟩, found, done⟩ := of_bind_ok done
  obtain ⟨⟨b, size⟩, foundLater, done⟩ := of_bind_ok done
  cases done
  obtain ⟨inside, elsewhere⟩ := repeated short found
  obtain ⟨insideLater, elsewhereLater⟩ := later a short (Int.natCast_add offset n ▸ foundLater)
  refine ⟨by omega, fun other place otherShort same => ?_⟩
  have first : again other place = .ok (a, n) := elsewhere otherShort (slice_of_slice (k := 0) same (by omega))
  have second := elsewhereLater otherShort (slice_of_slice same (Nat.le_refl _))
  rw [Int.natCast_add] at second
  simp [first, second]

end Reading

/-! ## Texts and bytes -/

namespace Sized

variable {offset : Int}

theorem take_ok_iff {data b : Bytes} {offset length : Nat} :
    take data offset length = .ok b ↔ offset + length ≤ data.length ∧ b = (data.drop offset).take length := by
  by_cases inside : offset + length ≤ data.length
  · have start : data.place offset = offset := by rw [Bytes.place, if_neg (by omega)]; omega
    have stop : data.place (offset + length) = offset + length := by rw [Bytes.place, if_neg (by omega)]; omega
    rw [take, if_neg (by omega), Bytes.between, start, stop, List.drop_take, Nat.add_sub_cancel_left, Except.ok.injEq]
    exact ⟨fun same => ⟨inside, same.symm⟩, fun found => found.2.symm⟩
  · rw [take, if_pos (by omega)]
    simp [inside]

theorem readLength_ok_iff {length : Option Nat} :
    readLength data offset = .ok length ↔ ∃ b, data.window offset 4 = .ok b ∧
      (if ofBigEndian b = nothing then none else some (ofBigEndian b)) = length := by
  rw [readLength]
  split
  next b found => simp [found]
  next found => simp [found]
  next found => simp [found]

theorem repeatedBy_readLength : Reading.RepeatedBy (fun data offset => (readLength data offset).map (·, 4))
    (fun data offset => (readLength data offset).map (·, 4)) := by
  have windows : Reading.RepeatedBy (fun data offset => (data.window offset 4).map fun b => (b, 4))
      (fun data offset => (data.window offset 4).map fun b => (b, 4)) :=
    Reading.repeatedBy_window (by decide) fun b => b
  intro data offset length n short done
  obtain ⟨_, found, same⟩ := of_map_ok done
  cases same
  obtain ⟨b, window, isLength⟩ := readLength_ok_iff.mp found
  obtain ⟨inside, elsewhere⟩ := windows short (congrArg (Except.map (·, 4)) window)
  refine ⟨inside, fun other place otherShort same => ?_⟩
  obtain ⟨_, again, same⟩ := of_map_ok (elsewhere otherShort same)
  cases same
  exact congrArg (Except.map (·, 4)) (readLength_ok_iff.mpr ⟨b, again, isLength⟩)

/-- Bytes behind a length may be none, and even then they have to be inside the data. -/
theorem repeatedBy_readBytes : Reading.RepeatedBy readBytes readBytes := by
  intro data offset b n short done
  obtain ⟨length, found, done⟩ := of_bind_ok done
  obtain ⟨inside, elsewhere⟩ := repeatedBy_readLength short (congrArg (Except.map (·, 4)) found)
  have again {other : Bytes} {place : Nat} (otherShort : other.length < 2 ^ 63)
      (same : (other.drop place).take 4 = (data.drop offset).take 4) : readLength other place = .ok length := by
    obtain ⟨length', found', same'⟩ := of_map_ok (elsewhere otherShort same)
    cases same'
    exact found'
  cases length with
  | none =>
    cases done
    exact ⟨inside, fun other place otherShort same => by simp [readBytes, again otherShort same]⟩
  | some length =>
    obtain ⟨content, taken, done⟩ := of_bind_ok done
    cases done
    have taken : take data (offset + 4 : Nat) length = .ok b := taken
    obtain ⟨insideContent, rfl⟩ := take_ok_iff.mp taken
    refine ⟨.inr (by omega), fun other place otherShort same => ?_⟩
    have insideOther := inside_of_slice same (by omega) (by omega)
    have first : readLength other place = .ok (some length) :=
      again otherShort (slice_of_slice (k := 0) same (by omega))
    have again : take other (place + 4 : Nat) length = .ok ((data.drop (offset + 4)).take length) :=
      take_ok_iff.mpr ⟨by omega, (slice_of_slice same (Nat.le_refl _)).symm⟩
    have again : take other (place + 4) length = .ok ((data.drop (offset + 4)).take length) := again
    simp [readBytes, first, again]

theorem readText_eq (data : Bytes) (offset : Int) : readText data offset = do
    let (b, n) ← readBytes data offset
    let t ← (Utf16.decode b).mapError (.undecodable offset)
    return (t, n) := by
  rw [readText, readBytes]
  cases readLength data offset with
  | error e => rfl
  | ok length =>
    cases length with
    | none => rfl
    | some length =>
      simp only [ok_bind]
      cases take data (offset + 4) length with
      | error e => rfl
      | ok content =>
        cases decoded : Utf16.decode content with
        | error e =>
          simp only [ok_bind, pure_eq_ok, decoded]
          rfl
        | ok t => simp [decoded]

theorem repeatedBy_readText : Reading.RepeatedBy readText readText := by
  have steady (offset place : Int) (b : Bytes) (t : Text)
      (decoded : (Utf16.decode b).mapError (Fault.undecodable offset) = .ok t) :
      (Utf16.decode b).mapError (Fault.undecodable place) = .ok t := by
    rw [of_mapError_ok decoded, ok_mapError]
  have repeated := repeatedBy_readBytes.check steady
  rwa [← funext₂ readText_eq] at repeated

theorem repeatedBy_readItems (count : Nat) :
    Reading.RepeatedBy (fun data offset => readItems data count offset) (fun data offset => readItems data count offset) := by
  induction count with
  | zero => exact Reading.repeatedBy_const []
  | succ count ih => exact repeatedBy_readText.andThen (fun _ => ih) (· :: ·)

theorem repeatedBy_readTexts : Reading.RepeatedBy readTexts readTexts := by
  have same (data : Bytes) (offset : Int) : readTexts data offset =
      ((readLength data offset).map (·, 4) >>= fun counted : Option Nat × Nat =>
        readItems data (counted.1.getD 0) (offset + counted.2) >>= fun read => .ok (read.1, counted.2 + read.2)) := by
    rw [readTexts]
    cases readLength data offset <;> rfl
  simp only [funext₂ same]
  exact repeatedBy_readLength.andThen (fun length => repeatedBy_readItems (length.getD 0)) fun _ items => items

/-- Every text takes a length at least. -/
theorem length_of_readItems {count : Nat} {ts : List Text}
    (done : readItems data count offset = .ok (ts, n)) : 4 * ts.length ≤ n := by
  induction count generalizing offset ts n with
  | zero =>
    cases done
    simp
  | succ count ih =>
    obtain ⟨⟨t, size⟩, found, done⟩ := of_bind_ok done
    obtain ⟨⟨rest, sizes⟩, foundLater, done⟩ := of_bind_ok done
    cases done
    have later := ih foundLater
    have sized : 4 ≤ size := by
      rw [readText_eq] at found
      obtain ⟨⟨b, total⟩, found, done⟩ := of_bind_ok found
      obtain ⟨_, -, done⟩ := of_bind_ok done
      cases done
      obtain ⟨length, -, found⟩ := of_bind_ok found
      cases length with
      | none =>
        cases found
        exact Nat.le_refl 4
      | some length =>
        obtain ⟨_, -, found⟩ := of_bind_ok found
        cases found
        omega
    simp only [List.length_cons]
    omega

end Sized

/-! ## Values of named types -/

abbrev Reading.of {α : Type} (unpack : Bytes → Int → Logged (α × Nat)) : Reading α := fun data offset =>
  (unpack data offset).result

theorem Reading.of_apply (unpack : Bytes → Int → Logged (α × Nat)) (data : Bytes) (offset : Int) :
    Reading.of unpack data offset = (unpack data offset).result := rfl

theorem NumberFormat.size_pos (format : NumberFormat) : 0 < format.size := by cases format <;> decide

/-- The class of the unit that unpacks the values of a type. -/
def Registry.classOf? (registry : Registry) (type : Text) : Option Text :=
  match Builtin.encoding? type, registry.lookup type with
  | none, some ⟨.ofUnit cls, _, .own⟩ => some cls
  | _, _ => none

theorem unpackAs_of_classOf {registry : Registry} (isClass : registry.classOf? type = some cls)
    (own : Text → Unpacker) (data : Bytes) (offset : Int) :
    unpackAs registry own type data offset = (own cls data offset).mapFault (asTruncated type offset) := by
  unfold Registry.classOf? at isClass
  split at isClass
  next known found =>
    cases isClass
    simp [unpackAs, unpackBy, known, found, RegisteredType.unpack]
  next => cases isClass

section

variable {registry : Registry} {own again : Text → Unpacker}

private theorem repeatedBy_number (format : NumberFormat) :
    Reading.RepeatedBy (unpackNumber format) (unpackNumber format) :=
  Reading.repeatedBy_window format.size_pos format.read

private theorem repeatedBy_builtin {encoding : Encoding} (known : Builtin.encoding? type = some encoding) :
    Reading.RepeatedBy (.of (unpackAs registry again type)) (.of (unpackAs registry own type)) := by
  unfold Reading.of unpackAs unpackBy
  rw [known]
  cases encoding with
  | number format => exact (repeatedBy_number format).mapError _
  | character =>
    have read := (Reading.repeatedBy_window (by decide : 0 < 2) fun b =>
      Value.text [CodePoint.ofNat (ofBigEndian b)]).mapError (asTruncated type)
    have same (data : Bytes) (offset : Int) :
        ((data.window offset 2).map fun b => (Value.text [CodePoint.ofNat (ofBigEndian b)], 2)).mapError
          (asTruncated type offset) = ((data.window offset 2).mapError (asTruncated type offset)).map fun b =>
          (Value.text [CodePoint.ofNat (ofBigEndian b)], 2) := by
      cases data.window offset 2 <;> rfl
    rwa [funext₂ same] at read
  | text => exact Sized.repeatedBy_readText.map Value.text
  | bytes => exact Sized.repeatedBy_readBytes.map Value.bytes
  | texts => exact Sized.repeatedBy_readTexts.map fun ts => Value.list (ts.map .text)
  | unsent => exact Reading.repeatedBy_fail _ fun _ _ => .noCodec type

private theorem byteAt_ok_iff {b : UInt8} (short : data.length < 2 ^ 63) :
    data.byteAt offset = .ok b ↔ data[offset]? = some b := by
  have notNegative : ¬ (offset : Int) < 0 := by omega
  rw [Bytes.byteAt]
  simp only [notNegative, if_false, Int.toNat_natCast]
  by_cases inside : offset < data.length
  · have index : Value.isIndex (offset : Int) = true := by simp [Value.isIndex]; omega
    simp [index, inside]
  · simp only [List.getElem?_eq_none (Nat.le_of_not_lt inside)]
    split <;> simp

private theorem repeatedBy_byte (f : UInt8 → α) :
    Reading.RepeatedBy (fun data offset => (data.byteAt offset).map fun b => (f b, 1))
      (fun data offset => (data.byteAt offset).map fun b => (f b, 1)) := by
  intro data offset b n short done
  obtain ⟨_, found, same⟩ := of_map_ok done
  cases same
  have there := (byteAt_ok_iff short).mp found
  obtain ⟨inside, -⟩ := List.getElem?_eq_some_iff.mp there
  refine ⟨.inr inside, fun other place otherShort same => ?_⟩
  have heads := congrArg List.head? same
  simp only [List.head?_take, Nat.one_ne_zero, if_false, List.head?_drop, there] at heads
  simp [(byteAt_ok_iff otherShort).mpr heads]

private theorem repeatedBy_foreign (cls : Text) :
    Reading.RepeatedBy (.of (unpackForeign cls)) (.of (unpackForeign cls)) := by
  have same (data : Bytes) (offset : Int) : (unpackForeign cls data offset).result =
      (data.window offset 2).map fun b => (Value.foreign cls (ofBigEndian (b.drop 1)), 2) := by
    rw [unpackForeign]
    cases data.window offset 2 <;> rfl
  unfold Reading.of
  simp only [same]
  exact Reading.repeatedBy_window (by decide : 0 < 2) _

private theorem repeatedBy_registered {known : RegisteredType} (asked : ∀ cls, known.type = .ofUnit cls → known.codec = .own →
    Reading.RepeatedBy (.of (again cls)) (.of (own cls))) :
    Reading.RepeatedBy (.of (known.unpack again)) (.of (known.unpack own)) := by
  obtain ⟨cls, id, codec⟩ := known
  cases codec with
  | usedEnum => exact repeatedBy_number _
  | byte => exact repeatedBy_byte fun b => Value.integer b.toNat
  | own =>
    cases cls with
    | ofUnit cls => exact asked cls rfl rfl
    | foreign cls => exact repeatedBy_foreign cls
    | integer => exact Reading.repeatedBy_fail _ fun _ _ => .noClassAttribute "int" "unpack"

theorem repeatedBy_unpackAs (asked : ∀ cls, registry.classOf? type = some cls →
    Reading.RepeatedBy (.of (again cls)) (.of (own cls))) :
    Reading.RepeatedBy (.of (unpackAs registry again type)) (.of (unpackAs registry own type)) := by
  cases known : Builtin.encoding? type with
  | some encoding => exact repeatedBy_builtin known
  | none =>
    cases found : registry.lookup type with
    | none =>
      unfold Reading.of unpackAs unpackBy
      rw [known, found]
      exact Reading.repeatedBy_fail _ fun _ _ => .noCodec type
    | some entry =>
      have registered : Reading.RepeatedBy (.of (entry.unpack again)) (.of (entry.unpack own)) := by
        refine repeatedBy_registered fun cls isClass isOwn => asked cls ?_
        obtain ⟨ref, id, codec⟩ := entry
        cases isClass
        cases isOwn
        simp [Registry.classOf?, known, found]
      unfold Reading.of unpackAs unpackBy
      rw [known, found]
      exact registered.mapError (asTruncated type)

end

/-! ## Records -/

namespace RecordStep

/-- The class of the unit that a step asks to unpack a value. -/
def asked? (i : Interface) (registry : Registry) (r : RecordDecl) : RecordStep → Option Text
  | .numbers _ | .single _ .used => none
  | .single a .own =>
    let cls := (i.hint none a.type).spelling
    if r.locals.contains cls then none else some cls
  | .single a .named => registry.classOf? a.type

variable {i : Interface} {registry : Registry} {own again : Text → Unpacker} {r : RecordDecl}

private theorem repeatedBy_single {read again : Unpacker} (repeated : Reading.RepeatedBy (.of again) (.of read)) :
    Reading.RepeatedBy (.of fun data offset => do let (v, n) ← again data offset; return ([v], n))
      (.of fun data offset => do let (v, n) ← read data offset; return ([v], n)) := by
  have same (u : Unpacker) (data : Bytes) (offset : Int) :
      (do let (v, n) ← u data offset; return ([v], n) : Logged (List Value × Nat)).result =
        (u data offset).result.map fun (v, n) => ([v], n) := by
    rw [Logged.result_bind]
    cases (u data offset).result <;> rfl
  unfold Reading.of
  simp only [same]
  exact repeated.map fun v => [v]

theorem repeatedBy_unpack (asked : ∀ cls, (i.step a).asked? i registry r = some cls →
    Reading.RepeatedBy (.of (again cls)) (.of (own cls))) :
    Reading.RepeatedBy (.of fun data offset => (i.step a).unpack i registry again r data offset)
      (.of fun data offset => (i.step a).unpack i registry own r data offset) := by
  unfold Interface.step at asked ⊢
  split
  next format number =>
    have same (own : Text → Unpacker) (data : Bytes) (offset : Int) :
        (unpack i registry own r data offset (.numbers [(a, format)])).result =
          (data.window offset format.size).map fun b => (readNumbers [(a, format)] b, format.size) := by
      simp only [unpack, Logged.result_bind, List.map_cons, List.map_nil, List.sum_cons, List.sum_nil, Nat.add_zero]
      cases data.window offset format.size <;> rfl
    unfold Reading.of
    simp only [same]
    exact Reading.repeatedBy_window format.size_pos _
  next number =>
    rw [number] at asked
    cases codec : i.attributeCodec a with
    | used => exact repeatedBy_single (repeatedBy_number _)
    | named =>
      refine repeatedBy_single (repeatedBy_unpackAs fun cls isClass => asked cls ?_)
      simpa [codec, asked?] using isClass
    | own =>
      unfold Reading.of
      by_cases hidden : r.locals.contains (i.hint none a.type).spelling
      · simp only [unpack, hidden, if_true]
        exact Reading.repeatedBy_fail _ fun _ _ => .noAttribute (i.hint none a.type).spelling "unpack"
      · simp only [unpack, hidden]
        exact repeatedBy_single (asked _ (by simp only [codec, asked?, hidden]; rfl))

theorem repeatedBy_unpackAll (asked : ∀ a ∈ attributes, ∀ cls,
    (i.step a).asked? i registry r = some cls → Reading.RepeatedBy (.of (again cls)) (.of (own cls))) :
    Reading.RepeatedBy (.of fun data offset => unpackAll i registry again r data (i.recordSteps attributes) offset)
      (.of fun data offset => unpackAll i registry own r data (i.recordSteps attributes) offset) := by
  have each : Reading.RepeatedBy (.of fun data offset => unpackAll i registry again r data (attributes.map i.step) offset)
      (.of fun data offset => unpackAll i registry own r data (attributes.map i.step) offset) := by
    induction attributes with
    | nil => exact Reading.repeatedBy_const []
    | cons a rest ih =>
      have first := repeatedBy_unpack (asked a (by simp))
      have later := ih fun a among => asked a (by simp [among])
      unfold Reading.of
      simp only [List.map_cons, unpackAll, Logged.result_bind, Logged.result_pure]
      exact first.andThen (fun _ => later) (· ++ ·)
  intro data offset vs n short done
  obtain ⟨inside, elsewhere⟩ := each short ((unpackAll_recordSteps short).mp done)
  exact ⟨inside, fun other place otherShort same =>
    (unpackAll_recordSteps otherShort).mpr (elsewhere otherShort same)⟩

theorem ok_of_asked {offset : Int} (asked : (i.step a).asked? i registry r = some cls)
    (done : ((i.step a).unpack i registry own r data offset).result = .ok (vs, n)) :
    ∃ v, (own cls data offset).result = .ok v := by
  unfold Interface.step at asked done
  split at asked
  next => cases asked
  next number =>
    rw [number] at done
    cases codec : i.attributeCodec a with
    | used => simp [codec, asked?] at asked
    | own =>
      simp only [codec, asked?] at asked
      split at asked
      next => cases asked
      next visible =>
        cases asked
        simp only [codec, unpack, visible] at done
        obtain ⟨v, found, -⟩ := of_bind_ok (Logged.result_bind .. ▸ done)
        exact ⟨v, found⟩
    | named =>
      simp only [codec, asked?] at asked
      simp only [codec, unpack, unpackAs_of_classOf asked, Logged.result_bind, Logged.result_mapFault] at done
      obtain ⟨v, found, -⟩ := of_bind_ok done
      exact ⟨v, of_mapError_ok found⟩

theorem exists_unpack_of_unpackAll (short : data.length < 2 ^ 63) (among : a ∈ attributes)
    (done : (unpackAll i registry own r data (i.recordSteps attributes) offset).result = .ok (vs, n)) :
    ∃ (place : Nat) (vs : List Value) (n : Nat), ((i.step a).unpack i registry own r data place).result = .ok (vs, n) := by
  replace done := (unpackAll_recordSteps short).mp done
  induction attributes generalizing offset vs n with
  | nil => simp at among
  | cons first rest ih =>
    obtain ⟨_, size, _, _, doneFirst, doneRest, -⟩ := unpackAll_cons_ok.mp done
    rcases List.mem_cons.mp among with rfl | among
    · exact ⟨offset, _, _, doneFirst⟩
    · rw [← Int.natCast_add] at doneRest
      exact ih among doneRest

end RecordStep

/-! ## Classes that ask classes -/

namespace Module

variable {offset : Int}

variable {m : Module} {registry : Registry}

/-- A record asks a class of the unit for the value of an attribute. -/
def Asks (m : Module) (registry : Registry) (outer inner : Text) : Prop :=
  ∃ r, m.definition? outer = some (.record r) ∧
    ∃ a ∈ r.attributes, (m.interface.step a).asked? m.interface registry r = some inner

theorem ok_of_asks {data : Bytes} (short : data.length < 2 ^ 63) {depth : Nat} {outer inner : Text} {offset : Nat}
    {v : Value × Nat} (asks : m.Asks registry outer inner)
    (done : (m.unpackOwn registry depth outer data offset).result = .ok v) :
    ∃ less < depth, ∃ (place : Nat) (v : Value × Nat), (m.unpackOwn registry less inner data place).result = .ok v := by
  obtain ⟨r, defined, a, among, asked⟩ := asks
  cases depth with
  | zero => cases done
  | succ depth =>
    simp only [unpackOwn, defined, Logged.result_bind] at done
    obtain ⟨⟨vs, n⟩, done, -⟩ := of_bind_ok done
    obtain ⟨place, vs, n, done⟩ := RecordStep.exists_unpack_of_unpackAll short among done
    exact ⟨depth, Nat.lt_succ_self depth, place, RecordStep.ok_of_asked asked done⟩

private theorem not_asks_self {data : Bytes} (short : data.length < 2 ^ 63) {depth : Nat} {cls : Text} {offset : Nat}
    {v : Value × Nat} (done : (m.unpackOwn registry depth cls data offset).result = .ok v) :
    ¬ Relation.TransGen (m.Asks registry) cls cls := by
  have descend {inner : Text} (asks : Relation.TransGen (m.Asks registry) cls inner) {depth offset : Nat} {v : Value × Nat}
      (done : (m.unpackOwn registry depth cls data offset).result = .ok v) :
      ∃ less < depth, ∃ (place : Nat) (v : Value × Nat), (m.unpackOwn registry less inner data place).result = .ok v := by
    induction asks with
    | single asks => exact ok_of_asks short asks done
    | tail _ asks ih =>
      obtain ⟨less, isLess, place, v, done⟩ := ih
      obtain ⟨lesser, isLesser, found⟩ := ok_of_asks short asks done
      exact ⟨lesser, by omega, found⟩
  intro asks
  induction depth using Nat.strongRecOn generalizing offset v with
  | ind depth ih =>
    obtain ⟨less, isLess, place, v, done⟩ := descend asks done
    exact ih less isLess done

/-- Below the records above a class there is depth enough left for what it asks. -/
def Deep (m : Module) (registry : Registry) (depth : Nat) (cls : Text) : Prop :=
  ∃ path : List Text, path.Nodup ∧ m.interface.records.length < depth + path.length ∧
    ∀ outer ∈ path, (∃ r, m.definition? outer = some (.record r)) ∧ Relation.TransGen (m.Asks registry) outer cls

theorem deep_of_lt {depth : Nat} (enough : m.interface.records.length < depth) (cls : Text) : m.Deep registry depth cls :=
  ⟨[], .nil, by simpa using enough, by simp⟩

theorem deep_unpackDepth (data : Bytes) (cls : Text) : m.Deep registry (m.unpackDepth data) cls := by
  refine deep_of_lt (Nat.lt_of_lt_of_le ?_ (Nat.le_mul_of_pos_right _ (by omega))) cls
  omega

theorem mem_records_of_definition? {r : RecordDecl} (defined : m.definition? cls = some (.record r)) :
    r ∈ m.interface.records ∧ r.name = cls := by
  rcases List.mem_append.mp (Scope.mem_of_find? defined) with among | isSide
  · rcases List.mem_append.mp among with isEnum | isRecord
    · simp at isEnum
    · obtain ⟨_, declared, same⟩ := List.mem_map.mp isRecord
      cases same
      exact ⟨declared, rfl⟩
  · obtain ⟨c, -, among⟩ := List.mem_flatMap.mp isSide
    simp only [Mode.definitions] at among
    split at among <;> split at among <;> simp at among

theorem not_deep_zero : ¬ m.Deep registry 0 cls := by
  rintro ⟨path, distinct, enough, above⟩
  have records : path ⊆ m.interface.records.map (·.name) := by
    intro outer among
    obtain ⟨r, defined⟩ := (above outer among).1
    obtain ⟨declared, named⟩ := mem_records_of_definition? defined
    exact named ▸ List.mem_map_of_mem declared
  have few := distinct.length_le_of_subset records
  rw [List.length_map] at few
  omega

theorem Deep.inner {depth : Nat} {inner : Text} (deep : m.Deep registry (depth + 1) outer)
    (grounded : ¬ Relation.TransGen (m.Asks registry) outer outer) (asks : m.Asks registry outer inner) :
    m.Deep registry depth inner := by
  obtain ⟨path, distinct, enough, above⟩ := deep
  obtain ⟨r, defined, -⟩ := id asks
  refine ⟨outer :: path, List.nodup_cons.mpr ⟨fun there => grounded (above outer there).2, distinct⟩, ?_, ?_⟩
  · simp only [List.length_cons]
    omega
  · intro cls there
    rcases List.mem_cons.mp there with rfl | there
    · exact ⟨⟨r, defined⟩, .single asks⟩
    · exact ⟨(above cls there).1, (above cls there).2.tail asks⟩

/-- To whatever depth a class may ask, it gives the same, provided that the depth is enough. -/
theorem repeatedBy_unpackOwn {depth other : Nat} (deep : m.Deep registry other cls) :
    Reading.RepeatedBy (.of (m.unpackOwn registry other cls)) (.of (m.unpackOwn registry depth cls)) := by
  induction depth generalizing other cls with
  | zero => exact Reading.repeatedBy_fail _ fun _ _ => .tooDeep
  | succ depth ih =>
    cases other with
    | zero => exact absurd deep not_deep_zero
    | succ other =>
      by_cases grounded : Relation.TransGen (m.Asks registry) cls cls
      · intro data offset v n short done
        exact absurd grounded (not_asks_self short done)
      · have inner (r : RecordDecl) (defined : m.definition? cls = some (.record r)) (a : Parameter)
            (among : a ∈ r.attributes) (part : Text)
            (asked : (m.interface.step a).asked? m.interface registry r = some part) :=
          ih (deep.inner grounded ⟨r, defined, a, among, asked⟩)
        unfold Reading.of unpackOwn
        match defined : m.definition? cls with
        | some (.enum plan) =>
          simp only [EnumPlan.unpack, Logged.result_bind, Logged.result_of, Logged.result_pure]
          exact (repeatedBy_number plan.wire.format).check (f := fun _ raw => (plan.fromWire cls raw).result)
            fun _ _ _ _ done => done
        | some (.record r) =>
          simp only [Logged.result_bind, Logged.result_of, Logged.result_pure]
          exact (RecordStep.repeatedBy_unpackAll (inner r defined)).check (f := fun _ values => m.record cls r values)
            fun _ _ _ _ done => done
        | none | some (.replica _) | some (.source _) | some (.simpleSource _) | some (.descriptor _) =>
          exact Reading.repeatedBy_fail _ fun _ _ => .noClassAttribute cls "unpack"

/-! ## Lists of arguments -/

theorem repeatedBy_unpack (type : Text) :
    Reading.RepeatedBy (.of (m.unpack registry type)) (.of (m.unpack registry type)) := by
  -- The depth is that of the data at hand, so both depths are fixed before the readings are compared.
  have fixed (depth : Nat) (other : Bytes) : Reading.RepeatedBy
      (.of (unpackAs registry (m.unpackOwn registry (m.unpackDepth other)) type))
      (.of (unpackAs registry (m.unpackOwn registry depth) type)) :=
    repeatedBy_unpackAs fun cls _ => repeatedBy_unpackOwn (deep_unpackDepth other cls)
  intro data offset v n short done
  exact ⟨(fixed _ data short done).1, fun other place otherShort same => (fixed _ other short done).2 otherShort same⟩

theorem repeatedBy_unpackArguments (types : List Text) :
    Reading.RepeatedBy (.of (m.unpackArguments registry types)) (.of (m.unpackArguments registry types)) := by
  induction types with
  | nil => exact Reading.repeatedBy_const []
  | cons type rest ih =>
    unfold Reading.of
    simp only [unpackEach, Logged.result_bind, Logged.result_pure, Logged.result_mapFault]
    exact ((repeatedBy_unpack type).mapError fun _ => inView).andThen (fun _ => ih) (· :: ·)

/-- The bytes that a list of texts has for the lengths of its parts. -/
def lengthsSize (type : Text) (v : Value) : Nat :=
  match Builtin.encoding? type, v with
  | some .texts, .list items => 4 + 4 * items.length
  | _, _ => 0

private theorem lengthsSize_le {v : Value}
    (done : (m.unpack registry type data offset).result = .ok (v, n)) : lengthsSize type v ≤ n := by
  unfold lengthsSize
  split
  next known =>
    simp only [unpack, unpackAs, unpackBy, known, Logged.result_of] at done
    obtain ⟨⟨ts, size⟩, found, same⟩ := of_map_ok done
    cases same
    obtain ⟨length, -, found⟩ := of_bind_ok found
    obtain ⟨⟨items, sizes⟩, foundItems, same⟩ := of_bind_ok found
    cases same
    have least := Sized.length_of_readItems foundItems
    simp only [List.length_map]
    omega
  next => exact Nat.zero_le n

private theorem sum_lengthsSize_le {types : List Text} {values : List Value}
    (done : (m.unpackArguments registry types data offset).result = .ok (values, n)) :
    (List.zipWith lengthsSize types values).sum ≤ n := by
  induction types generalizing offset values n with
  | nil =>
    cases done
    simp
  | cons type rest ih =>
    simp only [unpackEach, Logged.result_bind, Logged.result_pure, Logged.result_mapFault] at done
    obtain ⟨⟨v, size⟩, found, done⟩ := of_bind_ok done
    obtain ⟨⟨later, sizes⟩, foundLater, done⟩ := of_bind_ok done
    cases done
    have first := lengthsSize_le (of_mapError_ok found)
    have second := ih foundLater
    simp only [List.zipWith_cons_cons, List.sum_cons]
    omega

def shelf : Module where
  interface := { records := [{ name := "Size", attributes := [⟨"short", "width"⟩, ⟨"short", "height"⟩] },
    { name := "Box", attributes := [⟨"QByteArray", "label"⟩, ⟨"Size", "size"⟩] }] }

end Module

end Counterpart
