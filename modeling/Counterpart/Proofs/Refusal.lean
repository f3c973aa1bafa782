import Counterpart.Proofs.Clashes
import Counterpart.Proofs.Decoding
import Counterpart.Proofs.Records

/-!
Malformed bytes are refused as such. Faults of the layout arise at any depth and get their names where a value is
unpacked by the name of its type; the one other fault is that of an offset beyond every index.
-/
namespace Counterpart

variable {data : Bytes} {encoding : Encoding} {e : Fault} {attributes : List Parameter} {steps : List RecordStep}
variable {offset : Nat} {format : NumberFormat} {a : Parameter} {step : RecordStep} {registry : Registry}
variable {type cls : Text} {v : Value × Nat}

/-! ## Faults of readings -/

/-- The fault says that bytes are malformed, or that the offset lies beyond every index. -/
def Fault.Refuses (offset : Nat) (e : Fault) : Prop :=
  e.kind = .serialization ∨ e = .offsetOverflow ∧ 2 ^ 63 ≤ offset

/-- The fault refuses bytes, or says that there are too few of them for a layout. -/
def Fault.Lacks (offset : Nat) (e : Fault) : Prop := (∃ l, e = .layout l) ∨ e.Refuses offset

namespace Fault

variable {n : Nat}

/-- Behind bytes that lie inside the data, there is no offset beyond every index. -/
theorem Refuses.before (refused : e.Refuses (offset + n)) (inside : n = 0 ∨ offset + n < 2 ^ 63) : e.Refuses offset := by
  rcases refused with malformed | ⟨overflow, large⟩
  · exact .inl malformed
  · exact .inr ⟨overflow, by omega⟩

theorem Lacks.before (lacking : e.Lacks (offset + n)) (inside : n = 0 ∨ offset + n < 2 ^ 63) : e.Lacks offset :=
  lacking.imp_right (·.before inside)

theorem Lacks.asTruncated (lacking : e.Lacks offset) (type : Text) (place : Int) :
    (asTruncated type place e).Refuses offset := by
  rcases lacking with ⟨l, rfl⟩ | refused
  · exact .inl rfl
  · rcases refused with malformed | ⟨rfl, large⟩
    · cases e <;> first | exact .inl rfl | exact .inl malformed
    · exact .inr ⟨rfl, large⟩

end Fault

theorem Bytes.lacks_of_window {size : Nat} (failed : data.window offset size = .error e) : e.Lacks offset := by
  simp only [window] at failed
  generalize (if (offset : Int) < 0 then (offset : Int) + data.length else offset) = start at failed
  split at failed
  next outside =>
    cases failed
    refine .inr (.inr ⟨rfl, ?_⟩)
    simp only [Value.isIndex, Bool.not_eq_true', Bool.and_eq_false_iff, decide_eq_false_iff_not] at outside
    omega
  next =>
    split at failed
    next =>
      cases failed
      exact .inl ⟨_, rfl⟩
    next => cases failed

theorem Bytes.window_of_large (data : Bytes) (size : Nat) (large : 2 ^ 63 ≤ offset) :
    data.window offset size = .error .offsetOverflow := by
  have noIndex : Value.isIndex (offset : Int) = false := by
    simp only [Value.isIndex, Bool.and_eq_false_iff, decide_eq_false_iff_not]
    omega
  rw [window, noIndex, Bool.not_false, if_pos rfl]

namespace Sized

private theorem refuses_of_readLength (failed : readLength data offset = .error e) : e.Refuses offset := by
  rw [readLength] at failed
  split at failed
  next => cases failed
  next =>
    cases failed
    exact .inl rfl
  next noLayout found =>
    cases failed
    rcases Bytes.lacks_of_window found with ⟨l, rfl⟩ | refused
    · exact (noLayout l rfl).elim
    · exact refused

private theorem refuses_of_readBytes (failed : readBytes data offset = .error e) : e.Refuses offset := by
  rcases of_bind_error failed with failed | ⟨length, -, failed⟩
  · exact refuses_of_readLength failed
  · cases length with
    | none => cases failed
    | some length =>
      rcases of_bind_error failed with failed | ⟨content, -, failed⟩
      · rw [take] at failed
        split at failed
        next =>
          cases failed
          exact .inl rfl
        next => cases failed
      · cases failed

private theorem refuses_of_readText (failed : readText data offset = .error e) : e.Refuses offset := by
  rw [readText_eq] at failed
  rcases of_bind_error failed with failed | ⟨⟨b, n⟩, -, failed⟩
  · exact refuses_of_readBytes failed
  · rcases of_bind_error failed with failed | ⟨t, -, failed⟩
    · obtain ⟨flaw, -, rfl⟩ := of_mapError_error failed
      exact .inl rfl
    · cases failed

private theorem refuses_of_readItems (short : data.length < 2 ^ 63) {count : Nat}
    (failed : readItems data count offset = .error e) : e.Refuses offset := by
  induction count generalizing offset with
  | zero => cases failed
  | succ count ih =>
    rcases of_bind_error failed with failed | ⟨⟨t, n⟩, found, failed⟩
    · exact refuses_of_readText failed
    · rcases of_bind_error failed with failed | ⟨_, -, failed⟩
      · have inside := (repeatedBy_readText short found).1
        exact (ih (Int.natCast_add offset n ▸ failed)).before (by omega)
      · cases failed

private theorem refuses_of_readTexts (short : data.length < 2 ^ 63)
    (failed : readTexts data offset = .error e) : e.Refuses offset := by
  rcases of_bind_error failed with failed | ⟨length, found, failed⟩
  · exact refuses_of_readLength failed
  · rcases of_bind_error failed with failed | ⟨_, -, failed⟩
    · have inside := (repeatedBy_readLength short (congrArg (Except.map (·, 4)) found)).1
      have later : e.Refuses (offset + 4) := refuses_of_readItems short failed
      exact later.before (by omega)
    · cases failed

end Sized

/-! ## Faults of named types -/

/-- Every fault of a reading is an expected one. -/
def Reading.FailsWith {α : Type} (expected : Nat → Fault → Prop) (read : Reading α) : Prop :=
  ∀ ⦃data : Bytes⦄ ⦃offset : Nat⦄ ⦃e : Fault⦄, data.length < 2 ^ 63 → read data offset = .error e → expected offset e

/-- The types in the registry are classes of a unit, and enums that are declared elsewhere. -/
def Registry.OfUnit (registry : Registry) : Prop :=
  ∀ name known, registry.lookup name = some known →
    known.codec = .usedEnum ∨ known.codec = .own ∧ ∃ cls, known.type = .ofUnit cls

section

variable {own : Text → Unpacker}

private theorem lacks_of_number (failed : unpackNumber format data offset = .error e) : e.Lacks offset :=
  Bytes.lacks_of_window (of_map_error failed)

private theorem failsWith_builtin (known : Builtin.encoding? type = some encoding) :
    Reading.FailsWith Fault.Refuses (.of (unpackAs registry own type)) := by
  intro data offset e short failed
  unfold Reading.of unpackAs unpackBy at failed
  rw [known] at failed
  cases encoding with
  | number format =>
    rw [Logged.result_of] at failed
    obtain ⟨raw, cause, rfl⟩ := of_mapError_error failed
    exact (lacks_of_number cause).asTruncated type offset
  | character =>
    rw [Logged.result_of] at failed
    obtain ⟨raw, cause, rfl⟩ := of_mapError_error (of_map_error failed)
    exact (Bytes.lacks_of_window cause).asTruncated type offset
  | text =>
    rw [Logged.result_of] at failed
    exact Sized.refuses_of_readText (of_map_error failed)
  | bytes =>
    rw [Logged.result_of] at failed
    exact Sized.refuses_of_readBytes (of_map_error failed)
  | texts =>
    rw [Logged.result_of] at failed
    exact Sized.refuses_of_readTexts short (of_map_error failed)
  | unsent =>
    cases failed
    exact .inl rfl

theorem failsWith_unpackAs (ofUnit : registry.OfUnit) (asked : ∀ cls,
    registry.classOf? type = some cls → Reading.FailsWith Fault.Lacks (.of (own cls))) :
    Reading.FailsWith Fault.Refuses (.of (unpackAs registry own type)) := by
  cases known : Builtin.encoding? type with
  | some encoding => exact failsWith_builtin known
  | none =>
    intro data offset e short failed
    cases found : registry.lookup type with
    | none =>
      simp only [Reading.of, unpackAs, unpackBy, known, found] at failed
      cases failed
      exact .inl rfl
    | some entry =>
      obtain ⟨ref, id, codec⟩ := entry
      rcases ofUnit type _ found with isUsed | ⟨isOwn, cls, isClass⟩
      · cases isUsed
        simp only [Reading.of, unpackAs, unpackBy, known, found, RegisteredType.unpack, unpackUsedEnum,
          Logged.result_mapFault,
          Logged.result_of] at failed
        obtain ⟨raw, cause, rfl⟩ := of_mapError_error failed
        exact (lacks_of_number cause).asTruncated type offset
      · cases isOwn
        cases isClass
        have isClass : registry.classOf? type = some cls := by simp [Registry.classOf?, known, found]
        simp only [Reading.of, unpackAs_of_classOf isClass, Logged.result_mapFault] at failed
        obtain ⟨raw, cause, rfl⟩ := of_mapError_error failed
        exact (asked cls isClass short cause).asTruncated type offset

end

/-! ## Faults of records -/

namespace RecordStep

private theorem mem_consNumber
    (among : step ∈ consNumber a format steps) : (∃ run, step = .numbers run) ∨ step ∈ steps := by
  unfold consNumber at among
  split at among
  next => grind
  next => grind

/-- A step of a record is a run of numbers or the step for one attribute. -/
private theorem mem_recordSteps {i : Interface}
    (among : step ∈ i.recordSteps attributes) : (∃ run, step = .numbers run) ∨ ∃ a ∈ attributes, step = i.step a := by
  induction attributes with
  | nil => simp [Interface.recordSteps] at among
  | cons a rest ih =>
    have later (among : step ∈ i.recordSteps rest) :
        (∃ run, step = .numbers run) ∨ ∃ b ∈ a :: rest, step = i.step b := by
      rcases ih among with isRun | ⟨b, isAttribute, same⟩
      · exact .inl isRun
      · exact .inr ⟨b, by simp [isAttribute], same⟩
    unfold Interface.recordSteps at among
    split at among
    next format number => exact (mem_consNumber among).elim .inl later
    next number =>
      rcases List.mem_cons.mp among with same | among
      · exact .inr ⟨a, by simp, by rw [same, Interface.step, number]⟩
      · exact later among

variable {i : Interface} {own : Text → Unpacker} {r : RecordDecl}

private theorem lacks_of_numbers {run : List (Parameter × NumberFormat)}
    (failed : (unpack i registry own r data offset (.numbers run)).result = .error e) : e.Lacks offset := by
  simp only [unpack, Logged.result_bind, Logged.result_of] at failed
  rcases of_bind_error failed with failed | ⟨_, -, failed⟩
  · exact Bytes.lacks_of_window failed
  · cases failed

private theorem error_of_single {x : Logged (Value × Nat)}
    (failed : (do let (v, size) ← x; return ([v], size) : Logged (List Value × Nat)).result = .error e) :
    x.result = .error e := by
  rw [Logged.result_bind] at failed
  rcases of_bind_error failed with failed | ⟨_, -, failed⟩
  · exact failed
  · cases failed

/-- A step for an attribute fails as the class that it asks does, unless the class is hidden. -/
private theorem lacks_of_step (ofUnit : registry.OfUnit)
    (seen : i.step a = .single a .own → (i.hint none a.type).spelling ∉ r.locals)
    (asked : ∀ cls, (i.step a).asked? i registry r = some cls → Reading.FailsWith Fault.Lacks (.of (own cls)))
    (short : data.length < 2 ^ 63)
    (failed : ((i.step a).unpack i registry own r data offset).result = .error e) : e.Lacks offset := by
  unfold Interface.step at seen asked failed
  split at failed
  next => exact lacks_of_numbers failed
  next number =>
    rw [number] at seen asked
    cases codec : i.attributeCodec a with
    | used =>
      rw [codec] at failed
      have failed := error_of_single failed
      rw [unpackUsedEnum, Logged.result_of] at failed
      exact lacks_of_number failed
    | named =>
      rw [codec] at failed asked
      exact .inr (failsWith_unpackAs ofUnit asked short (error_of_single failed))
    | own =>
      have visible : r.locals.contains (i.hint none a.type).spelling = false := by
        simpa using seen (by rw [codec])
      simp only [codec, unpack, visible] at failed
      exact asked _ (by simp only [codec, asked?, visible]; rfl) short (error_of_single failed)

private theorem lacks_of_unpackAll (short : data.length < 2 ^ 63)
    (each : ∀ step ∈ steps, ∀ (offset : Nat) (e : Fault),
      (step.unpack i registry own r data offset).result = .error e → e.Lacks offset)
    (inside : ∀ step ∈ steps, ∀ (offset : Nat) (vs : List Value) (n : Nat),
      (step.unpack i registry own r data offset).result = .ok (vs, n) → n = 0 ∨ offset + n ≤ data.length)
    (failed : (unpackAll i registry own r data steps offset).result = .error e) :
    e.Lacks offset := by
  induction steps generalizing offset with
  | nil => cases failed
  | cons step rest ih =>
    simp only [unpackAll, Logged.result_bind, Logged.result_pure] at failed
    rcases of_bind_error failed with failed | ⟨⟨vs, n⟩, found, failed⟩
    · exact each step (by simp) offset e failed
    · rcases of_bind_error failed with failed | ⟨_, -, failed⟩
      · rw [← Int.natCast_add] at failed
        have later := ih (fun step among => each step (by simp [among])) (fun step among => inside step (by simp [among]))
          failed
        have insideFirst := inside step (by simp) offset vs n found
        exact later.before (by omega)
      · cases failed

private theorem failsWith_recordSteps (ofUnit : registry.OfUnit)
    (seen : ∀ a ∈ attributes, i.step a = .single a .own → (i.hint none a.type).spelling ∉ r.locals)
    (asked : ∀ a ∈ attributes, ∀ cls, (i.step a).asked? i registry r = some cls →
      Reading.FailsWith Fault.Lacks (.of (own cls)) ∧ Reading.RepeatedBy (.of (own cls)) (.of (own cls))) :
    Reading.FailsWith Fault.Lacks
      (.of fun data offset => unpackAll i registry own r data (i.recordSteps attributes) offset) := by
  intro data offset e short failed
  refine lacks_of_unpackAll short ?_ ?_ failed
  · intro step among place fault failed
    rcases mem_recordSteps among with ⟨run, rfl⟩ | ⟨a, isAttribute, rfl⟩
    · exact lacks_of_numbers failed
    · exact lacks_of_step ofUnit (seen a isAttribute) (fun cls isAsked => (asked a isAttribute cls isAsked).1) short failed
  · intro step among place values n done
    rcases mem_recordSteps among with ⟨run, rfl⟩ | ⟨a, isAttribute, rfl⟩
    · obtain ⟨b, window, -⟩ := unpack_numbers_ok.mp done
      exact .inr ((Bytes.window_ok_iff short).mp window).1
    · exact (repeatedBy_unpack (fun cls isAsked => (asked a isAttribute cls isAsked).2) short done).1

end RecordStep

/-- A number on the wire gives an enumerator, if there is any. -/
private theorem EnumPlan.fromWire_read {p : EnumPlan} (populated : p.values ≠ []) (cls : Text) (format : NumberFormat)
    (b : Bytes) : ∃ v, (p.fromWire cls (format.read b)).result = .ok v := by
  have hashable : (format.read b).unhashable? = none := by cases format <;> rfl
  obtain ⟨first, isFirst⟩ : ∃ v, p.first? cls = some v := by
    obtain ⟨e, rest, same⟩ := List.exists_cons_of_ne_nil populated
    simp [first?, members, same]
  have converted : ∃ v known, p.convertValue cls (format.read b) = .ok (v, known) := by
    rw [convertValue, hashable, isFirst]
    cases p.matching? cls (format.read b) <;> exact ⟨_, _, rfl⟩
  obtain ⟨v, known, converted⟩ := converted
  refine ⟨v, ?_⟩
  cases known with
  | true => simp [fromWire, converted]
  | false =>
    simp [fromWire, converted]
    rfl

namespace Module

variable {m : Module}

/-- A name stands for an enum, or for a record that finds the classes of its attributes under their names. -/
def Finds (m : Module) (cls : Text) : Prop :=
  match m.definition? cls with
  | some (.enum _) => True
  | some (.record r) => ∀ a ∈ r.attributes, m.interface.step a = .single a .own →
    (m.interface.hint none a.type).spelling ∉ r.locals
  | _ => False

/-- Whatever class unpacking a type comes upon, at any depth, is found under its name. -/
def FindsAll (m : Module) (registry : Registry) (type : Text) : Prop :=
  ∀ cls, registry.classOf? type = some cls → ∀ inner, Relation.ReflTransGen (m.Asks registry) cls inner → m.Finds inner

def HasEnumerators (m : Module) : Prop := ∀ name plan, m.definition? name = some (.enum plan) → plan.values ≠ []

private theorem failsWith_unpackOwn (ofUnit : registry.OfUnit) (members : m.HasEnumerators)
    (grounded : ∀ cls, ¬ Relation.TransGen (m.Asks registry) cls cls) {depth : Nat}
    (deep : m.Deep registry depth cls)
    (finds : ∀ inner, Relation.ReflTransGen (m.Asks registry) cls inner → m.Finds inner) :
    Reading.FailsWith Fault.Lacks (.of (m.unpackOwn registry depth cls)) := by
  induction depth generalizing cls with
  | zero => exact absurd deep not_deep_zero
  | succ depth ih =>
    intro data offset e short failed
    have found := finds cls .refl
    unfold Finds at found
    unfold Reading.of unpackOwn at failed
    split at found
    next plan defined =>
      simp only [defined, EnumPlan.unpack, Logged.result_bind, Logged.result_of] at failed
      rcases of_bind_error failed with failed | ⟨⟨raw, n⟩, read, failed⟩
      · exact lacks_of_number failed
      · obtain ⟨b, -, same⟩ := of_map_ok read
        cases same
        obtain ⟨v, converted⟩ := EnumPlan.fromWire_read (members cls plan defined) cls plan.wire.format b
        rw [converted] at failed
        cases failed
    next r defined =>
      simp only [defined, Logged.result_bind, Logged.result_of] at failed
      rcases of_bind_error failed with failed | ⟨⟨values, n⟩, read, failed⟩
      · refine RecordStep.failsWith_recordSteps ofUnit found (fun a among inner isAsked => ?_) short failed
        have asks : m.Asks registry cls inner := ⟨r, defined, a, among, isAsked⟩
        have deeper := deep.inner (grounded cls) asks
        exact ⟨ih deeper fun other reached => finds other (.head asks reached), repeatedBy_unpackOwn deeper⟩
      · have length := RecordStep.length_of_unpackAll_steps ((RecordStep.unpackAll_recordSteps short).mp read)
        rw [record_of_length length] at failed
        cases failed
    next => exact found.elim

/-- Where every class is found, a value of a named type is unpacked or refused. -/
theorem failsWith_unpack (ofUnit : registry.OfUnit) (members : m.HasEnumerators)
    (grounded : ∀ cls, ¬ Relation.TransGen (m.Asks registry) cls cls) (finds : m.FindsAll registry type) :
    Reading.FailsWith Fault.Refuses (.of (m.unpack registry type)) := by
  intro data offset e short failed
  exact failsWith_unpackAs ofUnit (fun cls isClass => failsWith_unpackOwn ofUnit members grounded
    (deep_unpackDepth data cls) (finds cls isClass)) short failed

/-- A class that any bytes are read by is found under its name, and so are the classes of its attributes. -/
private theorem finds_of_ok (short : data.length < 2 ^ 63) {depth : Nat}
    (done : (m.unpackOwn registry depth cls data offset).result = .ok v) : m.Finds cls := by
  cases depth with
  | zero => cases done
  | succ depth =>
    unfold Finds
    unfold unpackOwn at done
    split
    next => trivial
    next r defined =>
      intro a among asksOwn hidden
      simp only [defined, Logged.result_bind] at done
      obtain ⟨⟨vs, n⟩, done, -⟩ := of_bind_ok done
      obtain ⟨place, _, _, done⟩ := RecordStep.exists_unpack_of_unpackAll short among done
      rw [asksOwn] at done
      simp only [RecordStep.unpack, List.contains_iff_mem.mpr hidden, if_true] at done
      cases done
    next noEnum noRecord =>
      split at done
      next plan defined => exact noEnum plan defined
      next r defined => exact noRecord r defined
      next => cases done

/-- Only a type whose classes are all found is ever unpacked. -/
theorem findsAll_of_ok (short : data.length < 2 ^ 63)
    (done : (m.unpack registry type data offset).result = .ok v) : m.FindsAll registry type := by
  intro cls isClass inner reached
  rw [unpack, unpackAs_of_classOf isClass, Logged.result_mapFault] at done
  have read : ∃ (depth place : Nat) (v : Value × Nat), (m.unpackOwn registry depth inner data place).result = .ok v := by
    induction reached with
    | refl => exact ⟨_, offset, v, of_mapError_ok done⟩
    | tail _ asks ih =>
      obtain ⟨depth, place, v, done⟩ := ih
      obtain ⟨less, -, found⟩ := ok_of_asks short asks done
      exact ⟨less, found⟩
  obtain ⟨depth, place, v, done⟩ := read
  exact finds_of_ok short done

/-- An offset beyond every index is reported as such, whatever builtin type is to be unpacked. -/
theorem overflow_of_builtin (known : Builtin.encoding? type = some encoding)
    (isSent : encoding ≠ .unsent) (data : Bytes) (large : 2 ^ 63 ≤ offset) :
    (m.unpack registry type data offset).result = .error .offsetOverflow := by
  have noBytes : Sized.readBytes data offset = .error .offsetOverflow := by
    rw [Sized.readBytes, Sized.readLength, Bytes.window_of_large data _ large, error_bind]
  simp only [unpack, unpackAs, unpackBy, known]
  cases encoding with
  | number format =>
    rw [Logged.result_of, unpackNumber, Bytes.window_of_large data _ large]
    rfl
  | character =>
    rw [Logged.result_of, Bytes.window_of_large data _ large]
    rfl
  | text =>
    rw [Logged.result_of, Sized.readText_eq, noBytes]
    rfl
  | bytes =>
    rw [Logged.result_of, noBytes]
    rfl
  | texts =>
    rw [Logged.result_of, Sized.readTexts, Sized.readLength, Bytes.window_of_large data _ large, error_bind]
    rfl
  | unsent => exact absurd rfl isSent

/-! ## Units of accepted drafts -/

private theorem ofUnit_register_one {registry : Registry} (ofUnit : registry.OfUnit) {name : Text} {ref : ClassRef}
    {codec : Codec} (known : codec = .usedEnum ∨ codec = .own ∧ ∃ cls, ref = .ofUnit cls) :
    (registry.register name ref codec).2.OfUnit := by
  unfold Registry.register
  split
  next => exact ofUnit
  next =>
    simp only
    split
    next => exact ofUnit
    next =>
      intro other entry found
      rw [Registry.lookup] at found
      by_cases same : other = name
      · rw [same, Keyed.get?_set_self] at found
        cases found
        exact known
      · rw [Keyed.get?_set_of_ne same] at found
        exact ofUnit other entry found

/-- Registering a unit registers classes of the unit, and enums that are declared elsewhere. -/
theorem ofUnit_register (m : Module) {registry : Registry} (ofUnit : registry.OfUnit) :
    (m.register registry).2.OfUnit := by
  rw [register]
  generalize m.interface.registrations = registrations
  induction registrations generalizing registry with
  | nil => exact ofUnit
  | cons r rest ih =>
    rw [registerEach]
    split
    next ref codec done =>
      refine ih (ofUnit_register_one ofUnit ?_)
      unfold registered at done
      split at done <;> cases done
      · exact .inl rfl
      · exact .inr ⟨rfl, _, rfl⟩
      · exact .inr ⟨rfl, _, rfl⟩
    next => exact ofUnit

theorem hasEnumerators_of_check {d : Draft} (accepted : d.check = .ok ()) (mode : Mode) :
    HasEnumerators ⟨d.fill, mode⟩ := by
  intro name plan defined
  obtain ⟨e, declared, rfl⟩ := exists_enum_of_definition? defined
  exact Draft.enumerators_ne_nil_of_check accepted declared

end Module

end Counterpart
