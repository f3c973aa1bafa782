import Counterpart.Module.Plain
import Counterpart.Proofs.Batching
import Counterpart.Proofs.Members
import Mathlib.Logic.Relation

/-!
Records are read back, and the records in them. A record is unpacked by a function with names of its own, and finds
the class of an attribute only if that class goes by its name there.
-/
namespace Counterpart

variable {data : Bytes} {e : EnumDecl} {offset number : Int} {i : Interface} {fields : List PackedField}
variable {attributes : List Parameter} {values vs : List Value} {m : Module} {n size : Nat} {a : Parameter}
variable {condition : Prop} {r : RecordDecl} {type cls name : Text} {α : Type} {v : Value}

/-! ## The classes of types -/

namespace Interface

def classOf (i : Interface) (type : Text) : Text :=
  match (i.classes.filter (·.name = (splitScope type).1)).find? (·.hasEnum (splitScope type).2) with
  | some c => i.qualify (some c) (splitScope type).2
  | none => type

private theorem find?_enums_isSome (c : ClassDecl) (name : Text) :
    (c.enums.find? (·.name = name)).isSome = c.hasEnum name := by
  rw [Bool.eq_iff_iff, List.find?_isSome, ClassDecl.hasEnum, List.any_eq_true]

private theorem findSome?_enums (classes : List ClassDecl) (name : Text) :
    (classes.findSome? fun c => c.enums.find? (·.name = name)) =
      (classes.find? (·.hasEnum name)).bind fun c => c.enums.find? (·.name = name) := by
  induction classes with
  | nil => rfl
  | cons c rest ih =>
    have same := find?_enums_isSome c name
    cases found : c.enums.find? (·.name = name) with
    | none =>
      rw [found] at same
      simp [found, ← same, ih]
    | some e =>
      rw [found] at same
      simp [found, ← same]

/-- A type means the enum of a class, where it names one, and a global enum otherwise. -/
private theorem enum?_eq (i : Interface) (type : Text) :
    i.enum? none type =
      match (i.classes.filter (·.name = (splitScope type).1)).find? (·.hasEnum (splitScope type).2) with
      | some c => c.enums.find? (·.name = (splitScope type).2)
      | none => i.enums.find? (·.name = type) := by
  simp only [enum?, classEnum?, findSome?_enums, Option.bind_none]
  cases found : (i.classes.filter (·.name = (splitScope type).1)).find? (·.hasEnum (splitScope type).2) with
  | none => rfl
  | some c =>
    have same := find?_enums_isSome c (splitScope type).2
    rw [List.find?_some found] at same
    obtain ⟨e, declared⟩ := Option.isSome_iff_exists.mp same
    simp [declared]

theorem mem_emittedEnums (meant : i.enum? none type = some e) : (i.classOf type, e.plan) ∈ i.emittedEnums := by
  rw [enum?_eq] at meant
  unfold classOf
  split at meant
  next c found =>
    have declared := (List.mem_filter.mp (List.mem_of_find?_eq_some found)).1
    have named : e.name = (splitScope type).2 := by simpa using List.find?_some meant
    refine List.mem_append_right _ (List.mem_flatMap.mpr ⟨c, declared, List.mem_map.mpr ⟨e, ?_, ?_⟩⟩)
    · exact List.mem_of_find?_eq_some meant
    · rw [named]
  next found =>
    have named : e.name = type := by simpa using List.find?_some meant
    exact List.mem_append_left _ (List.mem_map.mpr ⟨e, List.mem_of_find?_eq_some meant, by rw [named]⟩)

theorem classOf_of_noEnum (noEnum : i.enum? none type = none) : i.classOf type = type := by
  rw [enum?_eq] at noEnum
  unfold classOf
  split at noEnum
  next c found =>
    have same := find?_enums_isSome c (splitScope type).2
    rw [List.find?_some found, noEnum] at same
    cases same
  next => rfl

end Interface

/-! ## Values of types -/

namespace Interface

mutual
/-- The value is one of a type, down to the attributes of records, and has room on the wire. -/
inductive Typed (i : Interface) : Text → Value → Prop
  | builtin {type : Text} {encoding : Encoding} {v : Value} (known : Builtin.encoding? type = some encoding)
    (fits : encoding.Fits v) : Typed i type v
  | enum {type : Text} {e : EnumDecl} {number : Int} {v : Value} (meant : i.enum? none type = some e)
    (member : e.plan.withNumber? (i.classOf type) number = some v)
    (fits : Encoding.Fits (.number e.plan.wire.format) (.integer number)) : Typed i type v
  | used {type : Text} {number : Int} (listed : type ∈ i.usedEnums)
    (fits : Encoding.Fits (.number WireType.ofUsedEnum.format) (.integer number)) : Typed i type (.integer number)
  | record {type : Text} {r : RecordDecl} {fields : List (Text × Value)} (meant : i.record? type = some r)
    (typed : FieldsTyped i r.attributes fields) : Typed i type (.record type fields)

/-- The values are those of attributes, in order. -/
inductive FieldsTyped (i : Interface) : List Parameter → List (Text × Value) → Prop
  | nil : FieldsTyped i [] []
  | cons {a : Parameter} {v : Value} {rest : List Parameter} {fields : List (Text × Value)}
    (first : Typed i a.type v) (later : FieldsTyped i rest fields) :
    FieldsTyped i (a :: rest) ((a.fieldName, v) :: fields)
end

/-- The unit declares an enum or a record under the name of a type. -/
def Declares (i : Interface) (type : Text) : Prop := (i.enum? none type).isSome ∨ (i.record? type).isSome

instance (i : Interface) (type : Text) : Decidable (i.Declares type) := inferInstanceAs (Decidable (_ ∨ _))

/-- Records of one type hold records of another. -/
def Holds (i : Interface) (outer inner : Text) : Prop :=
  ∃ r, i.record? outer = some r ∧ (i.record? inner).isSome ∧ ∃ a ∈ r.attributes, a.type = inner

/-- The function that unpacks a record has the class of an attribute under the name by which it asks for it. -/
def Sees (i : Interface) (r : RecordDecl) (a : Parameter) : Prop :=
  (i.hint none a.type).spelling = i.classOf a.type ∧ i.classOf a.type ∉ r.locals

instance (i : Interface) (r : RecordDecl) (a : Parameter) : Decidable (i.Sees r a) :=
  inferInstanceAs (Decidable (_ ∧ _))

/-- Unpacking a record of a type sees each class that it comes upon. -/
def SeesAll (i : Interface) (type : Text) : Prop :=
  ∀ inner r, Relation.ReflTransGen i.Holds type inner → i.record? inner = some r →
    ∀ a ∈ r.attributes, i.Declares a.type → i.Sees r a

end Interface

/-- The module can be loaded, each of its names means one thing, and no record holds itself. -/
structure Module.Unambiguous (m : Module) : Prop where
  sound : m.isSound
  classes : (m.definitions.map (·.1)).Nodup
  builtin : ∀ name ∈ Builtin.names, ¬ m.interface.Declares name ∧ name ∉ m.interface.usedEnums
  used : ∀ name ∈ m.interface.usedEnums, ¬ m.interface.Declares name
  records : ∀ r ∈ m.interface.records, m.interface.enum? none r.name = none
  grounded : ∀ name, ¬ Relation.TransGen m.interface.Holds name name

/-! ## What names mean -/

theorem Builtin.mem_names {encoding : Encoding} (known : encoding? name = some encoding) : name ∈ names := by
  obtain ⟨entry, found, _⟩ := Option.map_eq_some_iff.mp known
  have named : entry.1 = name := by simpa using List.find?_some found
  exact named ▸ List.mem_map_of_mem (List.mem_of_find?_eq_some found)

theorem Builtin.encoding?_of_notMem (custom : name ∉ names) : encoding? name = none :=
  Option.eq_none_iff_forall_ne_some.mpr fun _ known => custom (mem_names known)

namespace Module.Unambiguous

variable (clear : m.Unambiguous)

include clear

theorem encoding?_of_declares (declared : m.interface.Declares type) : Builtin.encoding? type = none := by
  apply Builtin.encoding?_of_notMem
  intro builtin
  exact (clear.builtin type builtin).1 declared

theorem enum?_of_record (meant : m.interface.record? type = some r) : m.interface.enum? none type = none := by
  have named : r.name = type := by simpa using List.find?_some meant
  rw [← named]
  exact clear.records r (List.mem_of_find?_eq_some meant)

theorem classOf_of_record (meant : m.interface.record? type = some r) : m.interface.classOf type = type :=
  Interface.classOf_of_noEnum (clear.enum?_of_record meant)

theorem definition?_of_enum (meant : m.interface.enum? none type = some e) :
    m.definition? (m.interface.classOf type) = some (.enum e.plan) := by
  apply Scope.find?_of_mem clear.classes
  apply List.mem_append_left
  apply List.mem_append_left
  exact List.mem_map.mpr ⟨_, Interface.mem_emittedEnums meant, rfl⟩

theorem definition?_of_record (meant : m.interface.record? type = some r) :
    m.definition? type = some (.record r) := by
  have named : r.name = type := by simpa using List.find?_some meant
  apply Scope.find?_of_mem clear.classes
  apply List.mem_append_left
  apply List.mem_append_right
  exact List.mem_map.mpr ⟨r, List.mem_of_find?_eq_some meant, by rw [named]⟩

theorem step_of_declares (declared : m.interface.Declares a.type) : m.interface.step a = .single a .own := by
  have noNumber : Builtin.numberFormat? a.type = none := by
    rw [Builtin.numberFormat?, clear.encoding?_of_declares declared]
  have codec : m.interface.attributeCodec a = .own := by
    have isOwn : ((m.interface.enumPlan? none a.type).isSome || (m.interface.record? a.type).isSome) = true := by
      simpa [Interface.enumPlan?, Interface.Declares] using declared
    rw [Interface.attributeCodec, if_pos isOwn]
  rw [Interface.step, noNumber, codec]

end Module.Unambiguous

/-! ## Records inside records -/

/-- Where every step leads to a lower rank, no way leads back. -/
theorem not_transGen_of_rank {leads : α → α → Prop} (rank : α → Nat)
    (lower : ∀ a b, leads a b → rank b < rank a) (a : α) : ¬ Relation.TransGen leads a a := by
  have descends {a b : α} (path : Relation.TransGen leads a b) : rank b < rank a := by
    induction path with
    | single step => exact lower _ _ step
    | tail _ step ih => exact Nat.lt_trans (lower _ _ step) ih
  exact fun path => Nat.lt_irrefl _ (descends path)

namespace Interface

theorem seesAll_of_noRecord (noRecord : i.record? type = none) : i.SeesAll type := by
  intro inner r reached meant
  rcases reached.cases_head with rfl | ⟨_, ⟨_, outer, _⟩, _⟩
  · rw [noRecord] at meant
    cases meant
  · rw [noRecord] at outer
    cases outer

/-- A record is seen through where its attributes are. -/
theorem seesAll_iff (meant : i.record? type = some r) :
    i.SeesAll type ↔ ∀ a ∈ r.attributes, i.Declares a.type → i.Sees r a ∧ i.SeesAll a.type := by
  constructor
  · intro all a among declared
    refine ⟨all type r .refl meant a among declared, fun inner s reached meantInner => ?_⟩
    cases record : i.record? a.type with
    | none => exact seesAll_of_noRecord record inner s reached meantInner
    | some _ =>
      have holds : i.Holds type a.type := ⟨r, meant, by simp [record], a, among, rfl⟩
      exact all inner s (.head holds reached) meantInner
  · intro each inner s reached meantInner b among declared
    rcases reached.cases_head with rfl | ⟨middle, ⟨r', meant', isRecord, a, amongOuter, rfl⟩, reached⟩
    · cases meant.symm.trans meantInner
      exact (each b among declared).1
    · cases meant.symm.trans meant'
      exact (each a amongOuter (.inr isRecord)).2 inner s reached meantInner b among declared

/-- Records that hold records of lower rank only do not hold themselves. -/
theorem grounded_of_rank (rank : Text → Nat) (lower : ∀ r ∈ i.records, ∀ a ∈ r.attributes,
    (i.record? a.type).isSome → rank a.type < rank r.name) (name : Text) : ¬ Relation.TransGen i.Holds name name := by
  refine not_transGen_of_rank rank (fun outer inner holds => ?_) name
  obtain ⟨r, meant, isRecord, a, among, rfl⟩ := holds
  have named : r.name = outer := by simpa using List.find?_some meant
  exact named ▸ lower r (List.mem_of_find?_eq_some meant) a among isRecord

/-- Below the records above a type there is depth enough left for what it holds. -/
def Within (i : Interface) (depth : Nat) (type : Text) : Prop :=
  ∃ path : List Text, path.Nodup ∧ i.records.length < depth + path.length ∧
    ∀ outer ∈ path, (i.record? outer).isSome ∧ ((i.record? type).isSome → Relation.TransGen i.Holds outer type)

theorem within_of_lt {depth : Nat} (deep : i.records.length < depth) : i.Within depth type :=
  ⟨[], .nil, by simpa using deep, by simp⟩

/-- Records that do not hold themselves lie no deeper than there are records. -/
theorem not_within_zero : ¬ i.Within 0 type := by
  rintro ⟨path, distinct, deep, above⟩
  have records : path ⊆ i.records.map (·.name) := by
    intro outer among
    obtain ⟨r, meant⟩ := Option.isSome_iff_exists.mp (above outer among).1
    have named : r.name = outer := by simpa using List.find?_some meant
    exact named ▸ List.mem_map_of_mem (List.mem_of_find?_eq_some meant)
  have few := distinct.length_le_of_subset records
  rw [List.length_map] at few
  omega

theorem Within.attribute (grounded : ¬ Relation.TransGen i.Holds type type) {depth : Nat}
    (within : i.Within (depth + 1) type) (meant : i.record? type = some r) (among : a ∈ r.attributes) :
    i.Within depth a.type := by
  obtain ⟨path, distinct, deep, above⟩ := within
  have isRecord : (i.record? type).isSome := by simp [meant]
  refine ⟨type :: path, List.nodup_cons.mpr ⟨fun there => grounded ((above type there).2 isRecord), distinct⟩, ?_, ?_⟩
  · simp only [List.length_cons]
    omega
  · intro outer there
    have holds (inner : (i.record? a.type).isSome) : i.Holds type a.type := ⟨r, meant, inner, a, among, rfl⟩
    rcases List.mem_cons.mp there with rfl | there
    · exact ⟨isRecord, fun inner => .single (holds inner)⟩
    · exact ⟨(above outer there).1, fun inner => ((above outer there).2 isRecord).tail (holds inner)⟩

end Interface

/-! ## Attributes -/

/-- What is read is a given thing, together with its size, exactly on a condition. -/
structure ReadsWhen {α : Type} (x : Except Fault (α × Nat)) (a : α) (size : Nat) (condition : Prop) : Prop where
  read : condition → x = .ok (a, size)
  needed : ∀ n, x = .ok (a, n) → condition

theorem ReadsWhen.of_ok {x : Except Fault (α × Nat)} {a : α}
    (holds : condition) (done : x = .ok (a, size)) : ReadsWhen x a size condition :=
  ⟨fun _ => done, fun _ _ => holds⟩

private theorem EnumPlan.kind_of_convertValue {p : EnumPlan} {raw : Value} {known : Bool}
    (converted : p.convertValue cls raw = .ok (v, known)) : v.kind = cls := by
  unfold convertValue matching? first? at converted
  split at converted
  · cases converted
  · split at converted
    next matched =>
      cases converted
      obtain ⟨_, _, rfl⟩ := Option.map_eq_some_iff.mp matched
      rfl
    next _ first =>
      cases converted
      obtain ⟨_, _, rfl⟩ := Option.map_eq_some_iff.mp first
      rfl
    next => cases converted

private theorem Module.kind_of_record (made : m.record cls r values = .ok v) : v.kind = cls := by
  rw [record, depth, makeRecord] at made
  split at made
  · cases made
  · obtain ⟨fields, _, rfl⟩ := of_map_ok made
    rfl

/-- Unpacking gives a value of the class that it is asked for. -/
theorem Module.kind_of_unpackOwn {registry : Registry} {depth : Nat}
    (done : (m.unpackOwn registry depth cls data offset).result = .ok (v, n)) :
    v.kind = cls := by
  cases depth with
  | zero => cases done
  | succ depth =>
    rw [unpackOwn] at done
    split at done
    next plan found =>
      simp only [EnumPlan.unpack, Logged.result_bind] at done
      obtain ⟨⟨raw, size⟩, _, done⟩ := of_bind_ok done
      obtain ⟨w, read, done⟩ := of_bind_ok done
      cases done
      simp only [EnumPlan.fromWire, Logged.result_bind, Logged.result_of] at read
      obtain ⟨⟨w', known⟩, converted, read⟩ := of_bind_ok read
      have same : w' = v := by cases known <;> cases read <;> rfl
      rw [← same]
      exact EnumPlan.kind_of_convertValue converted
    next r found =>
      simp only [Logged.result_bind, Logged.result_of] at done
      obtain ⟨⟨values, size⟩, _, done⟩ := of_bind_ok done
      obtain ⟨w, made, done⟩ := of_bind_ok done
      cases done
      exact kind_of_record made
    next => cases done

theorem Interface.Typed.kind_eq (clear : m.Unambiguous)
    (typed : m.interface.Typed type v) (declared : m.interface.Declares type) :
    v.kind = m.interface.classOf type := by
  cases typed with
  | builtin known fits =>
    rw [clear.encoding?_of_declares declared] at known
    cases known
  | enum meant member fits =>
    obtain ⟨_, _, rfl⟩ := Option.map_eq_some_iff.mp member
    rfl
  | used listed fits => exact absurd declared (clear.used _ listed)
  | record meant fields => exact (clear.classOf_of_record meant).symm

namespace RecordStep

variable {registry : Registry}

/-- An attribute that packs itself is unpacked where its class is seen. -/
theorem readsWhen_own (registry : Registry) (r : RecordDecl) {own : Text → Unpacker}
    (kind : ∀ cls w n, (own cls data offset).result = .ok (w, n) → w.kind = cls) (ofClass : v.kind = i.classOf a.type)
    (reads : ReadsWhen (own (i.classOf a.type) data offset).result v size condition) :
    ReadsWhen (unpack i registry own r data offset (.single a .own)).result [v] size (i.Sees r a ∧ condition) := by
  constructor
  · rintro ⟨⟨spelled, free⟩, holds⟩
    simp [unpack, spelled, free, reads.read holds]
  · intro n done
    simp only [unpack] at done
    split at done
    next => cases done
    next free =>
      rw [Logged.result_bind] at done
      obtain ⟨⟨w, size'⟩, read, same⟩ := of_bind_ok done
      cases same
      have spelled : (i.hint none a.type).spelling = i.classOf a.type := (kind _ _ _ read).symm.trans ofClass
      rw [spelled] at read free
      exact ⟨⟨spelled, by simpa using free⟩, reads.needed _ read⟩

private theorem length_of_single {x : Logged (Value × Nat)}
    (done : (do let (v, size) ← x; return ([v], size) : Logged (List Value × Nat)).result = .ok (vs, n)) :
    vs.length = 1 := by
  rw [Logged.result_bind] at done
  obtain ⟨_, _, same⟩ := of_bind_ok done
  cases same
  rfl

theorem length_of_unpack_step {own : Text → Unpacker}
    (done : ((i.step a).unpack i registry own r data offset).result = .ok (vs, n)) : vs.length = 1 := by
  unfold Interface.step at done
  split at done
  · obtain ⟨b, _, _, rfl⟩ := unpack_numbers_ok.mp done
    rfl
  · simp only [unpack] at done
    split at done
    · split at done
      · cases done
      · exact length_of_single done
    · exact length_of_single done
    · exact length_of_single done

theorem length_of_unpackAll_steps {own : Text → Unpacker}
    (done : (unpackAll i registry own r data (attributes.map i.step) offset).result = .ok (vs, n)) :
    vs.length = attributes.length := by
  induction attributes generalizing offset vs n with
  | nil =>
    cases done
    rfl
  | cons a rest ih =>
    obtain ⟨one, _, others, _, doneFirst, doneRest, rfl, -⟩ := unpackAll_cons_ok.mp done
    rw [List.length_append, length_of_unpack_step doneFirst, ih doneRest, List.length_cons, Nat.add_comm]

/-- An attribute that is no enum or record of the unit is read from its bytes. -/
theorem reads_other (clear : m.Unambiguous) {ownBytes : Except Fault Bytes}
    (there : Keyed.get? a.fieldName fields = some (v, ownBytes)) (typed : m.interface.Typed a.type v)
    (other : ¬ m.interface.Declares a.type) :
    ∃ b, (m.interface.step a).pack registry r fields = .ok b ∧ ∀ own data (offset : Nat), b.Stands data offset →
      ((m.interface.step a).unpack m.interface registry own r data offset).result = .ok ([v], b.length) := by
  have codec : ¬ ((m.interface.enumPlan? none a.type).isSome || (m.interface.record? a.type).isSome) := by
    simpa [Interface.enumPlan?, Interface.Declares] using other
  cases typed with
  | @builtin _ encoding _ known fits =>
    cases number : Builtin.numberFormat? a.type with
    | some format =>
      have same : encoding = .number format := by
        rw [Builtin.numberFormat?, known] at number
        split at number <;> simp_all
      obtain ⟨b, packed, length, back⟩ := NumberFormat.read_pack (same ▸ fits)
      refine ⟨b, by simp [Interface.step, number, pack, numbersOf, field, there, packNumbers, packed], ?_⟩
      intro own data offset stands
      simp [Interface.step, number, unpack, readNumbers, ← length, stands.window, back]
    | none =>
      have unlisted : a.type ∉ m.interface.usedEnums := (clear.builtin _ (Builtin.mem_names known)).2
      obtain ⟨b, packed, back⟩ := unpackBy_packBy registry (fun known v => known.pack v ownBytes) known fits
      have named : m.interface.step a = .single a .named := by
        simp [Interface.step, number, Interface.attributeCodec, codec, unlisted]
      refine ⟨b, by simp [named, pack, field, there, packAs, packed], fun own data offset stands => ?_⟩
      simp [named, unpack, unpackAs, back _ data offset stands]
  | enum meant member fits => exact absurd (.inl (by simp [meant])) other
  | used listed fits =>
    have unknown : Builtin.encoding? a.type = none :=
      Builtin.encoding?_of_notMem fun builtin => (clear.builtin _ builtin).2 listed
    obtain ⟨b, packed, length, back⟩ := NumberFormat.read_pack fits
    have used : m.interface.step a = .single a .used := by
      simp [Interface.step, Builtin.numberFormat?, unknown, Interface.attributeCodec, codec, listed]
    refine ⟨b, by simp [used, pack, field, there, packUsedEnum, Value.toInteger, Value.integer?, packed], ?_⟩
    intro own data offset stands
    simp [used, unpack, unpackUsedEnum, unpackNumber_eq length back stands]
  | record meant fields => exact absurd (.inr (by simp [meant])) other

end RecordStep

namespace Module

variable {fields : List (Text × Value)} {offset : Nat}

variable {registry : Registry}

/-- A value of a declared type packs itself, and is unpacked where each class that unpacking comes upon is seen. -/
def Returns (m : Module) (registry : Registry) (type : Text) (v : Value) : Prop :=
  ∃ b, m.packOwn registry v = .ok b ∧ ∀ depth data (offset : Nat), m.interface.Within depth type →
    b.Stands data offset → ReadsWhen (m.unpackOwn registry depth (m.interface.classOf type) data offset).result v
      b.length (m.interface.SeesAll type)

/-- A value is read back as the attribute of a record. -/
def ReturnsIn (m : Module) (registry : Registry) (r : RecordDecl) (fields : List PackedField) (a : Parameter)
    (v : Value) : Prop :=
  ∃ b, (m.interface.step a).pack registry r fields = .ok b ∧ ∀ depth data (offset : Nat),
    m.interface.Within depth a.type → b.Stands data offset →
      ReadsWhen ((m.interface.step a).unpack m.interface registry (m.unpackOwn registry depth) r data offset).result
        [v] b.length (m.interface.Declares a.type → m.interface.Sees r a ∧ m.interface.SeesAll a.type)

theorem returnsIn_of_typed (clear : m.Unambiguous) {r : RecordDecl} {fields : List PackedField} {a : Parameter}
    {v : Value} (there : Keyed.get? a.fieldName fields = some (v, m.packOwn registry v))
    (typed : m.interface.Typed a.type v) (own : m.interface.Declares a.type → m.Returns registry a.type v) :
    m.ReturnsIn registry r fields a v := by
  by_cases declared : m.interface.Declares a.type
  · obtain ⟨b, packed, reads⟩ := own declared
    rw [ReturnsIn, clear.step_of_declares declared]
    refine ⟨b, by simp [RecordStep.pack, RecordStep.field, there, packed], fun depth data offset within stands => ?_⟩
    have readsWhen := RecordStep.readsWhen_own registry r (fun _ _ _ => kind_of_unpackOwn)
      (typed.kind_eq clear declared) (reads depth data offset within stands)
    exact ⟨fun seen => readsWhen.read (seen declared), fun n done _ => readsWhen.needed n done⟩
  · obtain ⟨b, packed, back⟩ := RecordStep.reads_other clear there typed declared
    exact ⟨b, packed, fun depth data offset _ stands =>
      .of_ok (fun isDeclared => absurd isDeclared declared) (back _ data offset stands)⟩

/-- The attributes of a record are read back one after another. -/
theorem unpackAll_packAll {r : RecordDecl} {fields : List PackedField} {attributes : List Parameter}
    {values : List Value} (each : List.Forall₂ (m.ReturnsIn registry r fields) attributes values) :
    ∃ b, RecordStep.packAll registry r fields (attributes.map m.interface.step) = .ok b ∧
      ∀ depth data (offset : Nat), (∀ a ∈ attributes, m.interface.Within depth a.type) → b.Stands data offset →
        ReadsWhen (RecordStep.unpackAll m.interface registry (m.unpackOwn registry depth) r data
          (attributes.map m.interface.step) offset).result values b.length
          (∀ a ∈ attributes, m.interface.Declares a.type → m.interface.Sees r a ∧ m.interface.SeesAll a.type) := by
  induction each with
  | nil => exact ⟨[], rfl, fun _ _ _ _ _ => .of_ok (by simp) rfl⟩
  | @cons a v rest values first _ ih =>
    obtain ⟨b, packed, reads⟩ := first
    obtain ⟨later, packedLater, readsLater⟩ := ih
    refine ⟨b ++ later, by simp [RecordStep.packAll, packed, packedLater], fun depth data offset within stands => ?_⟩
    have readsFirst := reads depth data offset (within a (by simp)) stands.left
    have readsRest := readsLater depth data (offset + b.length) (fun a' among => within a' (by simp [among]))
      stands.right
    constructor
    · intro seen
      have doneFirst := readsFirst.read (seen a (by simp))
      have doneRest := readsRest.read fun a' among => seen a' (by simp [among])
      rw [Int.natCast_add] at doneRest
      simp [RecordStep.unpackAll, doneFirst, doneRest]
    · intro n done
      obtain ⟨one, size, others, sizes, doneFirst, doneRest, same, -⟩ := RecordStep.unpackAll_cons_ok.mp done
      obtain ⟨w, rfl⟩ := List.length_eq_one_iff.mp (RecordStep.length_of_unpack_step doneFirst)
      cases same
      have seenFirst := readsFirst.needed _ doneFirst
      have sameSize : size = b.length := by
        have read := doneFirst.symm.trans (readsFirst.read seenFirst)
        simpa using read
      rw [sameSize, ← Int.natCast_add] at doneRest
      intro a' among
      rcases List.mem_cons.mp among with rfl | among
      · exact seenFirst
      · exact readsRest.needed _ doneRest a' among

theorem packedFields_eq (fields : List (Text × Value)) :
    m.packedFields registry fields = fields.map fun (name, v) => (name, v, m.packOwn registry v) := by
  induction fields with
  | nil => rfl
  | cons field rest ih => rw [packedFields, ih, List.map_cons]

theorem get?_packedFields_of_mem (m : Module) (registry : Registry)
    (distinct : (fields.map (·.1)).Nodup) {field : Text × Value} (among : field ∈ fields) :
    Keyed.get? field.1 (m.packedFields registry fields) = some (field.2, m.packOwn registry field.2) := by
  rw [packedFields_eq]
  apply Keyed.get?_of_mem
  · rw [Keyed.keys, List.map_map]
    exact distinct
  · exact List.mem_map_of_mem among

private theorem fillWith_of_length {default : Parameter → Except Fault Value}
    (length : values.length = attributes.length) :
    fillWith default attributes values = .ok ((attributes.map (·.fieldName)).zip values) := by
  induction attributes generalizing values with
  | nil =>
    cases values with
    | nil => rfl
    | cons _ _ => cases length
  | cons a rest ih =>
    cases values with
    | nil => cases length
    | cons v values =>
      rw [fillWith, ih (Nat.succ.inj length)]
      rfl

theorem record_of_length (length : values.length = r.attributes.length) :
    m.record cls r values = .ok (.record cls ((r.attributes.map (·.fieldName)).zip values)) := by
  rw [record, depth, makeRecord, fillWith_of_length length, if_neg (by omega)]
  rfl

theorem matching?_integer (p : EnumPlan) (cls : Text) (number : Int) :
    p.matching? cls (.integer number) = p.withNumber? cls number := by
  have same : (fun member : Text × Int => Value.equals (.integer number) (.integer member.2)) =
      fun member => decide (member.2 = number) := by
    funext member
    simp [Value.equals, Value.equalsAtom, Value.integer?, eq_comm]
  exact congrArg (fun test => (p.members.find? test).map fun member => Value.enumerator cls member.1 member.2) same

/-- An enumerator whose number fits is packed by that number and read back by it. -/
theorem reads_enumerator (registry : Registry) {plan : EnumPlan}
    (defined : m.definition? cls = some (.enum plan)) (member : plan.withNumber? cls number = some v)
    (fits : Encoding.Fits (.number plan.wire.format) (.integer number)) :
    ∃ b, m.packOwn registry v = .ok b ∧ b.length = plan.wire.format.size ∧
      ∀ depth, Unpacker.Reads (m.unpackOwn registry (depth + 1) cls) v b := by
  obtain ⟨b, packed, length, back⟩ := NumberFormat.read_pack fits
  refine ⟨b, ?_, length, fun depth data offset stands => ?_⟩
  · obtain ⟨⟨name, n⟩, found, rfl⟩ := Option.map_eq_some_iff.mp member
    have same : n = number := by simpa using List.find?_some found
    simp [packOwn, enumClass?, defined, same, packed]
  · have converted : plan.convertValue cls (.integer number) = .ok (v, true) := by
      simp [EnumPlan.convertValue, Value.unhashable?, matching?_integer, member]
    simp [unpackOwn, defined, EnumPlan.unpack, unpackNumber_eq length back stands, EnumPlan.fromWire, converted]

theorem returns_enum (clear : m.Unambiguous) (meant : m.interface.enum? none type = some e)
    (member : e.plan.withNumber? (m.interface.classOf type) number = some v)
    (fits : Encoding.Fits (.number e.plan.wire.format) (.integer number)) : m.Returns registry type v := by
  have noRecord : m.interface.record? type = none := by
    apply Option.eq_none_iff_forall_ne_some.mpr
    intro r isRecord
    rw [clear.enum?_of_record isRecord] at meant
    cases meant
  obtain ⟨b, packed, -, reads⟩ := reads_enumerator registry (clear.definition?_of_enum meant) member fits
  refine ⟨b, packed, fun depth data offset within stands => .of_ok (Interface.seesAll_of_noRecord noRecord) ?_⟩
  cases depth with
  | zero => exact absurd within Interface.not_within_zero
  | succ depth => exact reads depth data offset stands

/-- A field has the name of an attribute, and a value of its type that is read back. -/
def FieldReturns (m : Module) (registry : Registry) (a : Parameter) (field : Text × Value) : Prop :=
  field.1 = a.fieldName ∧ m.interface.Typed a.type field.2 ∧
    (m.interface.Declares a.type → m.Returns registry a.type field.2)

section

private theorem names_of_fieldsReturn (each : List.Forall₂ (m.FieldReturns registry) r.attributes fields) :
    fields.map (·.1) = r.attributes.map (·.fieldName) := by
  rw [← List.forall₂_eq_eq_eq, List.forall₂_map_left_iff, List.forall₂_map_right_iff]
  exact each.flip.imp fun _ _ same => same.1

private theorem returnsIn_of_fieldsReturn (clear : m.Unambiguous) (meant : m.interface.record? type = some r)
    (each : List.Forall₂ (m.FieldReturns registry) r.attributes fields) :
    List.Forall₂ (m.ReturnsIn registry r (m.packedFields registry fields)) r.attributes (fields.map (·.2)) := by
  have distinct : (fields.map (·.1)).Nodup := by
    rw [names_of_fieldsReturn each]
    exact Module.nodup_fieldNames clear.sound (List.mem_of_find?_eq_some meant)
  rw [List.forall₂_map_right_iff, List.forall₂_iff_zip]
  refine ⟨each.length_eq, fun {a field} paired => ?_⟩
  obtain ⟨named, typed, own⟩ := (List.forall₂_iff_zip.mp each).2 paired
  have there := get?_packedFields_of_mem m registry distinct (List.of_mem_zip paired).2
  rw [named] at there
  exact returnsIn_of_typed clear there typed own

theorem unpackOwn_record_ok_iff (defined : m.definition? type = some (.record r)) {depth : Nat}
    (short : data.length < 2 ^ 63) :
    (m.unpackOwn registry (depth + 1) type data offset).result = .ok (v, n) ↔
      ∃ values, (RecordStep.unpackAll m.interface registry (m.unpackOwn registry depth) r data
        (r.attributes.map m.interface.step) offset).result = .ok (values, n) ∧
          v = .record type ((r.attributes.map (·.fieldName)).zip values) := by
  simp only [unpackOwn, defined, Logged.result_bind, Logged.result_of, Logged.result_pure]
  constructor
  · intro done
    obtain ⟨⟨values, size⟩, read, done⟩ := of_bind_ok done
    have read := (RecordStep.unpackAll_recordSteps short).mp read
    rw [record_of_length (RecordStep.length_of_unpackAll_steps read)] at done
    cases done
    exact ⟨values, read, rfl⟩
  · rintro ⟨values, read, rfl⟩
    rw [(RecordStep.unpackAll_recordSteps short).mpr read]
    simp only [ok_bind, record_of_length (RecordStep.length_of_unpackAll_steps read)]

private theorem readsWhen_record (defined : m.definition? type = some (.record r)) {depth : Nat}
    (names : fields.map (·.1) = r.attributes.map (·.fieldName))
    (short : data.length < 2 ^ 63)
    (readsAll : ReadsWhen (RecordStep.unpackAll m.interface registry (m.unpackOwn registry depth) r data
      (r.attributes.map m.interface.step) offset).result (fields.map (·.2)) size condition) :
    ReadsWhen (m.unpackOwn registry (depth + 1) type data offset).result (.record type fields) size condition := by
  constructor
  · intro holds
    have whole : (r.attributes.map (·.fieldName)).zip (fields.map (·.2)) = fields := by
      rw [← names]
      exact (List.zip_of_prod rfl rfl).symm
    exact (unpackOwn_record_ok_iff defined short).mpr ⟨_, readsAll.read holds, by rw [whole]⟩
  · intro n done
    obtain ⟨values, steps, made⟩ := (unpackOwn_record_ok_iff defined short).mp done
    rw [Value.record.injEq] at made
    have same : values = fields.map (·.2) := by
      rw [made.2, List.map_snd_zip (by simp [RecordStep.length_of_unpackAll_steps steps])]
    exact readsAll.needed _ (same ▸ steps)

theorem returns_record (clear : m.Unambiguous) (meant : m.interface.record? type = some r)
    (each : List.Forall₂ (m.FieldReturns registry) r.attributes fields) :
    m.Returns registry type (.record type fields) := by
  obtain ⟨b, packed, reads⟩ := unpackAll_packAll (returnsIn_of_fieldsReturn clear meant each)
  have defined := clear.definition?_of_record meant
  refine ⟨b, ?_, fun depth data offset within stands => ?_⟩
  · rw [packOwn, recordClass?, defined]
    exact RecordStep.packAll_recordSteps.mpr packed
  · rw [clear.classOf_of_record meant, Interface.seesAll_iff meant]
    cases depth with
    | zero => exact absurd within Interface.not_within_zero
    | succ depth =>
      have deeper (a : Parameter) (among : a ∈ r.attributes) : m.interface.Within depth a.type :=
        within.attribute (clear.grounded type) meant among
      exact readsWhen_record defined (names_of_fieldsReturn each) stands.short (reads depth data offset deeper stands)

end

mutual
/-- Values of declared types are read back, down to the attributes of records. -/
theorem returns_of_typed (clear : m.Unambiguous) {type : Text} {v : Value} (typed : m.interface.Typed type v)
    (declared : m.interface.Declares type) : m.Returns registry type v :=
  match typed with
  | .builtin known _ => absurd known (by simp [clear.encoding?_of_declares declared])
  | .enum meant member fits => returns_enum clear meant member fits
  | .used listed _ => absurd declared (clear.used _ listed)
  | .record meant fields => returns_record clear meant (returns_of_fieldsTyped clear fields)

theorem returns_of_fieldsTyped (clear : m.Unambiguous) {attributes : List Parameter} {fields : List (Text × Value)}
    (typed : m.interface.FieldsTyped attributes fields) :
    List.Forall₂ (m.FieldReturns registry) attributes fields :=
  match typed with
  | .nil => .nil
  | .cons first later => .cons ⟨rfl, first, returns_of_typed clear first⟩ (returns_of_fieldsTyped clear later)
end

/-- Packing a record gives bytes from which it is unpacked, wherever they stand, exactly if the class of every
attribute, here and in the records that it holds, is found under its name by the function that unpacks. -/
theorem unpack_pack_record (registry : Registry) (clear : m.Unambiguous) {type : Text} {v : Value}
    (isRecord : (m.interface.record? type).isSome) (typed : m.interface.Typed type v) :
    ∃ b, m.packOwn registry v = .ok b ∧ ∀ before after : Bytes, (before ++ b ++ after).length < 2 ^ 63 →
      ((m.unpackOwn registry (m.unpackDepth (before ++ b ++ after)) type (before ++ b ++ after) before.length).result =
        .ok (v, b.length) ↔ m.interface.SeesAll type) := by
  obtain ⟨r, meant⟩ := Option.isSome_iff_exists.mp isRecord
  obtain ⟨b, packed, reads⟩ := returns_of_typed clear typed (.inr isRecord)
  refine ⟨b, packed, fun before after short => ?_⟩
  have deep : m.interface.records.length < m.unpackDepth (before ++ b ++ after) :=
    Nat.lt_of_lt_of_le (by omega) (Nat.le_mul_of_pos_right (m.interface.records.length + 2) (by omega))
  have readsWhen := reads _ _ _ (Interface.within_of_lt deep) (.between short)
  rw [clear.classOf_of_record meant] at readsWhen
  exact ⟨readsWhen.needed _, readsWhen.read⟩

-- The offset at which a record stands is no class.
example : ¬ Interface.Sees { records := [{ name := "offset" }] }
    { name := "Holder", attributes := [⟨"offset", "place"⟩] } ⟨"offset", "place"⟩ := by
  decide +kernel

def drawing : Module where
  interface :=
    { classes := [{
        name := "Pen", enums := [{ name := "Mode", enumerators := [⟨"Up", .number 0⟩, ⟨"Down", .number 3⟩] }] }]
      records := [{ name := "Dot", attributes := [⟨"int", "x"⟩, ⟨"int", "y"⟩] },
        { name := "Line", attributes := [⟨"Dot", "from"⟩, ⟨"Pen::Mode", "mode"⟩, ⟨"quint8", "width"⟩, ⟨"short", "dash"⟩,
          ⟨"QString", "label"⟩, ⟨"Style", "style"⟩] }]
      usedEnums := ["Style"] }

def line : Value :=
  .record "Line" [("from_", .record "Dot" [("x", .integer 1), ("y", .integer (-2))]),
    ("mode", .enumerator "Pen_Mode" "Down" 3), ("width", .integer 200), ("dash", .integer (-300)),
    ("label", .text "é"), ("style", .integer 7)]

theorem drawing_unambiguous : drawing.Unambiguous where
  sound := by decide +kernel
  classes := by decide +kernel
  builtin := by decide +kernel
  used := by decide +kernel
  records := by decide +kernel
  grounded := Interface.grounded_of_rank List.length (by decide +kernel)

private theorem line_typed : drawing.interface.Typed "Line" line := by
  have number {format : NumberFormat} {least greatest : Int} (bounds : format.bounds? = some (least, greatest))
      {n : Int} (inside : least ≤ n ∧ n ≤ greatest) : Encoding.Fits (.number format) (.integer n) :=
    .integer bounds inside.1 inside.2
  have dot : drawing.interface.Typed "Dot" (.record "Dot" [("x", .integer 1), ("y", .integer (-2))]) :=
    .record rfl (.cons (.builtin rfl (number rfl (by decide))) (.cons (.builtin rfl (number rfl (by decide))) .nil))
  have mode : drawing.interface.Typed "Pen::Mode" (.enumerator "Pen_Mode" "Down" 3) :=
    @Interface.Typed.enum drawing.interface "Pen::Mode" _ 3 _ rfl rfl (number rfl (by decide))
  exact .record rfl (.cons dot (.cons mode (.cons (.builtin rfl (number rfl (by decide)))
    (.cons (.builtin rfl (number rfl (by decide))) (.cons (.builtin rfl (.text (by decide) (by decide)))
      (.cons (.used (by decide) (number rfl (by decide))) .nil))))))

private theorem drawing_seesAll (type : Text) : drawing.interface.SeesAll type := by
  have each : ∀ r ∈ drawing.interface.records, ∀ a ∈ r.attributes, drawing.interface.Declares a.type →
      drawing.interface.Sees r a := by
    decide +kernel
  intro inner r _ meant
  exact each r (List.mem_of_find?_eq_some meant)

theorem unpack_pack_record_line :
    ∃ b, drawing.packOwn {} line = .ok b ∧ ∀ before after : Bytes, (before ++ b ++ after).length < 2 ^ 63 →
      (drawing.unpackOwn {} (drawing.unpackDepth (before ++ b ++ after)) "Line" (before ++ b ++ after)
        before.length).result = .ok (line, b.length) := by
  obtain ⟨b, packed, reads⟩ := unpack_pack_record {} drawing_unambiguous (by decide) line_typed
  exact ⟨b, packed, fun before after short => (reads before after short).mpr (drawing_seesAll _)⟩

end Module

end Counterpart
