import Counterpart.Proofs.Decoding
import Counterpart.Proofs.Records
import Counterpart.Proofs.TypeIds

/-!
The codecs of records and the plain ones. A record packs its attributes by what was settled about them when the unit was
compiled, a list of arguments by what was registered when the unit was loaded. Main statement: both give the same bytes, and
both read the same values, unless the function that unpacks the record has the name of a class for something of its own.
-/
namespace Counterpart

variable {b data : Bytes} {fields : List PackedField} {attributes : List Parameter} {values vs : List Value}
variable {n offset : Nat} {type t : Text} {v : Value}

/-! ## Names of classes -/

theorem Hint.spelling_ofSymbol (symbol : Text) : (Hint.ofSymbol symbol).spelling = symbol := by
  unfold ofSymbol
  split
  next found => simpa using List.find?_some found
  next => rfl

namespace Text

private theorem dotted_cons {c : CodePoint} (plain : c ≠ ':') : dotted (c :: t) = c :: t.dotted := by
  cases t with
  | nil => rfl
  | cons d t => simp [dotted, plain]

private theorem dotted_append {a : Text} (plain : CodePoint.ofChar ':' ∉ a) : (a ++ t).dotted = a ++ t.dotted := by
  induction a with
  | nil => rfl
  | cons c a ih =>
    obtain ⟨first, later⟩ := not_or.mp (List.mem_cons.not.mp plain)
    rw [List.cons_append, dotted_cons (Ne.symm first), ih later, List.cons_append]

theorem isSymbol_scoped {scope name : Text} (isScope : scope.IsIdentifier) (isName : name.IsIdentifier) :
    (scope ++ "::" ++ name).isSymbol := by
  have free {c : CodePoint} (other : ¬ c.isWord) {t : Text} (isName : t.IsIdentifier) : c ∉ t :=
    fun among => other (isName.isWord c among)
  have dotted : (scope ++ "::" ++ name).dotted = scope ++ CodePoint.ofChar '.' :: name := by
    rw [List.append_assoc, dotted_append (free (by decide) isScope)]
    exact congrArg (fun t => scope ++ CodePoint.ofChar '.' :: t) isName.dotted_eq
  rw [isSymbol, dotted, splitAt_append (free (by decide) isScope),
    IsIdentifier.splitAt_of_notMem (free (by decide) isName)]
  simp [isScope.1, isName.1]

end Text

namespace Interface

variable {i : Interface}

theorem Named.classOf_eq (named : i.Named) (type : Text) : i.classOf type = i.qualify none type := by
  unfold classOf
  cases found : (i.classes.filter (·.name = (splitScope type).1)).find? (·.hasEnum (splitScope type).2) with
  | some c =>
    obtain ⟨declared, isScope⟩ := List.mem_filter.mp (List.mem_of_find?_eq_some found)
    have isScope : c.name = (splitScope type).1 := by simpa using isScope
    have isEnum := List.find?_some found
    have isHome : (i.classEnum? (splitScope type).1 (splitScope type).2).isSome :=
      isSome_classEnum?_iff.mpr ⟨c, declared, isScope, isEnum⟩
    simp only [named.qualify_enum declared isEnum]
    simp [qualify, isHome, isScope, Text.concat]
  | none =>
    have unscoped : ¬ (i.classEnum? (splitScope type).1 (splitScope type).2).isSome := by
      rw [isSome_classEnum?_iff]
      rintro ⟨c, declared, isScope, isEnum⟩
      exact List.find?_eq_none.mp found c (List.mem_filter.mpr ⟨declared, by simpa using isScope⟩) isEnum
    simp [qualify, unscoped]

theorem qualify_of_undeclared (undeclared : ¬ i.Declares type) : i.qualify none type = type := by
  cases meant : i.classEnum? (splitScope type).1 (splitScope type).2 with
  | some e => exact absurd (.inl (by simp [enum?, meant])) undeclared
  | none => simp [qualify, meant]

theorem Named.isSymbol_of_declares (named : i.Named) (declared : i.Declares type) : type.isSymbol := by
  cases meant : i.classEnum? (splitScope type).1 (splitScope type).2 with
  | some e =>
    obtain ⟨c, among, isScope, isEnum⟩ := isSome_classEnum?_iff.mp (Option.isSome_iff_exists.mpr ⟨e, meant⟩)
    have isClass := named.isIdentifier_class among
    have isName := named.isIdentifier_enum among isEnum
    cases cut : Text.cutLast? "::" type with
    | none =>
      -- a class has a name, so there is a scope to cut off
      rw [isScope, splitScope, cut] at isClass
      cases isClass.1
    | some parts =>
      rw [isScope, splitScope, cut] at isClass
      rw [splitScope, cut] at isName
      rw [Text.eq_of_cutLast? cut]
      exact Text.isSymbol_scoped isClass isName
  | none =>
    have plain : (∃ e ∈ i.enums, e.name = type) ∨ ∃ r ∈ i.records, r.name = type := by
      simpa [Declares, enum?, meant, record?] using declared
    have among : type ∈ i.declaredNames := by
      rcases plain with isEnum | isRecord
      · exact List.mem_append_right _ (List.mem_map.mpr isEnum)
      · exact List.mem_append_left _ (List.mem_append_right _ (List.mem_map.mpr isRecord))
    exact (named.declared type among).isSymbol

end Interface

/-! ## What is found under a name -/

theorem packAs_of_classOf {registry : Registry} {cls : Text} (isClass : registry.classOf? type = some cls)
    (v : Value) (own : Except Fault Bytes) : packAs registry type v own = own := by
  unfold Registry.classOf? at isClass
  split at isClass
  next known found => simp [packAs, packBy, known, found, RegisteredType.pack]
  next => cases isClass

namespace Interface

variable {i : Interface} {r other : Registration}

theorem Named.readName_eq (named : i.Named) (among : r ∈ i.registrations) : r.readName = r.name := by
  have bare : r.name.IsBare := by
    obtain ⟨name, ⟨used, rfl⟩ | ⟨-, ⟨isEnum, rfl⟩ | ⟨-, -, isSymbol, rfl⟩⟩⟩ := Interface.mem_registrations.mp among
    · exact named.used name used
    · exact (isIdentifier_of_emitted named (List.mem_append_left _ isEnum)).isBare
    · exact Text.isBare_of_isSymbol isSymbol
  exact Registration.readName_eq (Text.reread_of_isBare bare)

theorem eq_of_mem_registrations (among : r ∈ i.registrations) (too : other ∈ i.registrations)
    (same : other.name = r.name) : other = r := by
  obtain ⟨name, ⟨used, rfl⟩ | ⟨notUsed, ⟨isEnum, rfl⟩ | ⟨noEnum, -, -, rfl⟩⟩⟩ := mem_registrations.mp among <;>
  obtain ⟨name', ⟨used', rfl⟩ | ⟨notUsed', ⟨isEnum', rfl⟩ | ⟨noEnum', -, -, rfl⟩⟩⟩ := mem_registrations.mp too <;>
  obtain rfl : name' = name := same <;>
  first | rfl | contradiction

end Interface

namespace Module

variable {m : Module} {registry : Registry}

theorem exists_calls_of_registerEach {rs : List Registration} {earlier : List (Registry.Call Codec)}
    (done : m.registerEach rs (.after earlier) = (.ok (), registry)) :
    ∃ calls, registry = .after (earlier ++ calls) ∧ (∀ r ∈ rs, ∃ c ∈ calls, c.name = r.readName) ∧
      ∀ c ∈ calls, ∃ r ∈ rs, c.name = r.readName ∧ m.registered r = .ok (c.type, c.codec) := by
  induction rs generalizing earlier with
  | nil =>
    cases done
    exact ⟨[], by simp, by simp, by simp⟩
  | cons r rest ih =>
    rw [registerEach] at done
    split at done
    next type codec settled =>
      let call : Registry.Call Codec := ⟨r.readName, type, codec⟩
      have called : ((Registry.after earlier).register r.readName type codec).2 = .after (earlier ++ [call]) :=
        (Registry.after_concat earlier call).symm
      rw [called] at done
      obtain ⟨calls, rfl, made, came⟩ := ih done
      refine ⟨call :: calls, by simp, List.forall_mem_cons.mpr ⟨⟨call, by simp, rfl⟩, ?_⟩,
        List.forall_mem_cons.mpr ⟨⟨r, by simp, rfl, settled⟩, ?_⟩⟩
      · intro r' among
        obtain ⟨c, isCall, named⟩ := made r' among
        exact ⟨c, List.mem_cons_of_mem _ isCall, named⟩
      · intro c isCall
        obtain ⟨r', among, settled⟩ := came c isCall
        exact ⟨r', List.mem_cons_of_mem _ among, settled⟩
    next => cases done

theorem lookup_of_register (named : m.interface.Named) (registered : m.register {} = (.ok (), registry))
    {r : Registration} (among : r ∈ m.interface.registrations) (custom : r.name ∉ Builtin.names) :
    ∃ type codec id, m.registered r = .ok (type, codec) ∧ registry.lookup r.name = some ⟨type, id, codec⟩ := by
  have done : m.registerEach m.interface.registrations (.after []) = (.ok (), registry) := registered
  obtain ⟨calls, rfl, made, came⟩ := exists_calls_of_registerEach done
  obtain ⟨c, isCall, sameName⟩ := made r among
  rw [named.readName_eq among] at sameName
  obtain ⟨id, _, last, _, split, lastName, -, -, found⟩ := Registry.latest_after custom ⟨c, isCall, sameName⟩
  obtain ⟨other, too, otherName, settled⟩ := came last (by simp [split])
  rw [named.readName_eq too, lastName] at otherName
  rw [Interface.eq_of_mem_registrations among too otherName.symm] at settled
  exact ⟨last.type, last.codec, id, settled, found⟩

end Module

theorem Module.Unambiguous.qualify_notMem_builtin {m : Module} (clear : m.Unambiguous)
    (declared : m.interface.Declares type) : m.interface.qualify none type ∉ Builtin.names := by
  have plain : ∀ name ∈ Builtin.names, CodePoint.ofChar '_' ∉ name := by decide
  intro builtin
  simp only [Interface.qualify] at builtin
  split at builtin
  next =>
    refine plain _ builtin ?_
    simp [Text.concat, show ("_" : Text) = [CodePoint.ofChar '_'] from rfl]
  next => exact (clear.builtin type builtin).1 declared

namespace Module

section

variable {m : Module} {registry : Registry} (clear : m.Unambiguous) (named : m.interface.Named)
variable (apart : ∀ name ∈ m.interface.usedEnums, name ∉ m.interface.emittedEnums.map (·.1))

include clear named apart

theorem emitted_of_declares (declared : m.interface.Declares type) :
    m.interface.qualify none type ∈ m.interface.emittedNames ∧ m.interface.qualify none type ∉ m.interface.usedEnums ∧
      m.registered ⟨m.interface.qualify none type, m.interface.qualify none type, none⟩ =
        .ok (.ofUnit (m.interface.qualify none type), .own) := by
  rw [← named.classOf_eq]
  rcases id declared with isEnum | isRecord
  · obtain ⟨e, meant⟩ := Option.isSome_iff_exists.mp isEnum
    have among : m.interface.classOf type ∈ m.interface.emittedEnums.map (·.1) :=
      List.mem_map.mpr ⟨_, Interface.mem_emittedEnums meant, rfl⟩
    exact ⟨List.mem_append_left _ among, fun used => apart _ used among,
      by simp [Module.registered, clear.definition?_of_enum meant]⟩
  · obtain ⟨r, meant⟩ := Option.isSome_iff_exists.mp isRecord
    have sameName : r.name = type := by simpa using List.find?_some meant
    rw [clear.classOf_of_record meant]
    refine ⟨List.mem_append_right _ (List.mem_map.mpr ⟨r, List.mem_of_find?_eq_some meant, sameName⟩),
      fun used => clear.used type used declared, by simp [Module.registered, clear.definition?_of_record meant]⟩

theorem classOf?_of_declares (registered : m.register {} = (.ok (), registry)) (declared : m.interface.Declares type) :
    registry.classOf? (m.interface.qualify none type) = some (m.interface.qualify none type) := by
  obtain ⟨emitted, notUsed, settled⟩ := emitted_of_declares clear named apart declared
  have custom := clear.qualify_notMem_builtin declared
  have unknown := Builtin.encoding?_of_notMem custom
  obtain ⟨_, _, id, same, found⟩ := lookup_of_register named registered (named.mem_registrations emitted notUsed) custom
  rw [settled] at same
  cases same
  simp only [Registry.classOf?, unknown, found]

theorem spelling_of_declares (declared : m.interface.Declares type) :
    (m.interface.hint none type).spelling = m.interface.qualify none type := by
  obtain ⟨emitted, -, -⟩ := emitted_of_declares clear named apart declared
  have notUsed : type ∉ m.interface.usedEnums := fun used => clear.used type used declared
  simp [Interface.hint, clear.encoding?_of_declares declared, notUsed, named.isSymbol_of_declares declared,
    (Interface.isIdentifier_of_emitted named emitted).dotted_eq, Hint.spelling_ofSymbol]

end

/-! ## Attributes and arguments -/

/-- How an attribute travels in its record, and what is found under the name of its type. -/
inductive Travels (m : Module) (registry : Registry) (a : Parameter) : Prop
  | own (declared : m.interface.Declares a.type) (step : m.interface.step a = .single a .own)
    (spelled : (m.interface.hint none a.type).spelling = m.interface.qualify none a.type)
    (isClass : registry.classOf? (m.interface.qualify none a.type) = some (m.interface.qualify none a.type))
  | number {format : NumberFormat} (undeclared : ¬ m.interface.Declares a.type)
    (known : Builtin.encoding? a.type = some (.number format))
  | used {id : Nat} (undeclared : ¬ m.interface.Declares a.type) (step : m.interface.step a = .single a .used)
    (unknown : Builtin.encoding? a.type = none) (found : registry.lookup a.type = some ⟨.integer, id, .usedEnum⟩)
  | named (undeclared : ¬ m.interface.Declares a.type) (step : m.interface.step a = .single a .named)

variable {m : Module} {registry : Registry} {r : RecordDecl} {a : Parameter}

private theorem step_of_number {i : Interface} {format : NumberFormat}
    (known : Builtin.encoding? a.type = some (.number format)) : i.step a = .numbers [(a, format)] := by
  simp [Interface.step, Builtin.numberFormat?, known]

theorem travels (clear : m.Unambiguous) (named : m.interface.Named)
    (apart : ∀ name ∈ m.interface.usedEnums, name ∉ m.interface.emittedEnums.map (·.1))
    (registered : m.register {} = (.ok (), registry)) (a : Parameter) : m.Travels registry a := by
  by_cases declared : m.interface.Declares a.type
  · exact .own declared (clear.step_of_declares declared) (spelling_of_declares clear named apart declared)
      (classOf?_of_declares clear named apart registered declared)
  have noClass : ¬ ((m.interface.enumPlan? none a.type).isSome || (m.interface.record? a.type).isSome) := by
    simpa [Interface.enumPlan?, Interface.Declares] using declared
  by_cases used : a.type ∈ m.interface.usedEnums
  · have custom : a.type ∉ Builtin.names := fun builtin => (clear.builtin a.type builtin).2 used
    have unknown := Builtin.encoding?_of_notMem custom
    have among : ⟨a.type, "int", some a.type.identifier⟩ ∈ m.interface.registrations :=
      Interface.mem_registrations.mpr ⟨a.type, .inl ⟨used, rfl⟩⟩
    obtain ⟨_, _, id, settled, found⟩ := lookup_of_register named registered among custom
    cases settled
    refine .used declared ?_ unknown found
    simp [Interface.step, Builtin.numberFormat?, unknown, Interface.attributeCodec, noClass, used]
  · cases number : Builtin.numberFormat? a.type with
    | some format =>
      have known : Builtin.encoding? a.type = some (.number format) := by
        rw [Builtin.numberFormat?] at number
        split at number <;> simp_all
      exact .number declared known
    | none =>
      refine .named declared ?_
      simp [Interface.step, number, Interface.attributeCodec, noClass, used]

theorem Travels.pack_ok_iff (travels : m.Travels registry a)
    (there : Keyed.get? a.fieldName fields = some (v, m.packOwn registry v)) :
    (m.interface.step a).pack registry r fields = .ok b ↔
      m.pack registry (m.interface.qualify none a.type) v = .ok b := by
  cases travels with
  | own declared step spelled isClass =>
    rw [step, Module.pack, packAs_of_classOf isClass]
    simp [RecordStep.pack, RecordStep.field, there]
  | @number format undeclared known =>
    have alone : (m.interface.step a).pack registry r fields = format.pack v := by
      rw [step_of_number known]
      cases packed : format.pack v <;>
        simp [RecordStep.pack, RecordStep.numbersOf, RecordStep.field, there, RecordStep.packNumbers, packed]
    rw [alone, Interface.qualify_of_undeclared undeclared, Module.pack, packAs, packBy, known]
    exact mapError_ok_iff.symm
  | used undeclared step unknown found =>
    rw [step, Interface.qualify_of_undeclared undeclared]
    simp [RecordStep.pack, RecordStep.field, there, Module.pack, packAs, packBy, unknown, found, RegisteredType.pack]
  | named undeclared step =>
    rw [step, Interface.qualify_of_undeclared undeclared]
    simp [RecordStep.pack, RecordStep.field, there, Module.pack]

private theorem single_ok_iff {x : Except Fault (Value × Nat)} :
    (x >>= fun a => Except.ok ([a.1], a.2)) = .ok (vs, n) ↔ ∃ v, x = .ok (v, n) ∧ vs = [v] := by
  constructor
  · intro done
    obtain ⟨⟨v, _⟩, read, same⟩ := of_bind_ok done
    cases same
    exact ⟨v, read, rfl⟩
  · rintro ⟨v, rfl, rfl⟩
    rfl

section Unpacking

variable {depth : Nat} (deep : m.interface.records.length < depth) (short : data.length < 2 ^ 63)

include deep short

theorem unpackAs_ok_iff : (unpackAs registry (m.unpackOwn registry depth) type data offset).result = .ok (v, n) ↔
      (m.unpack registry type data offset).result = .ok (v, n) := by
  have repeated {depth other : Nat} (deep : ∀ cls, m.Deep registry other cls) :
      Reading.RepeatedBy (.of (unpackAs registry (m.unpackOwn registry other) type))
        (.of (unpackAs registry (m.unpackOwn registry depth) type)) :=
    repeatedBy_unpackAs fun cls _ => repeatedBy_unpackOwn (deep cls)
  constructor
  · intro done
    exact (repeated (deep_unpackDepth data) short done).2 short rfl
  · intro done
    exact (repeated (deep_of_lt deep) short done).2 short rfl

/-- An attribute is read as an argument of its type, if the function that unpacks its record sees the class. -/
theorem Travels.unpack_ok_iff (travels : m.Travels registry a) :
    ((m.interface.step a).unpack m.interface registry (m.unpackOwn registry depth) r data offset).result = .ok (vs, n) ↔
      (m.interface.Declares a.type → m.interface.qualify none a.type ∉ r.locals) ∧
        ∃ v, (m.unpack registry (m.interface.qualify none a.type) data offset).result = .ok (v, n) ∧ vs = [v] := by
  cases travels with
  | own declared step spelled isClass =>
    rw [step]
    simp only [RecordStep.unpack, spelled, ← unpackAs_ok_iff deep short, unpackAs_of_classOf isClass,
      Logged.result_mapFault, mapError_ok_iff]
    by_cases isLocal : m.interface.qualify none a.type ∈ r.locals
    · simp [isLocal, declared]
    · simp [isLocal, single_ok_iff]
  | @number format undeclared known =>
    rw [step_of_number known, Interface.qualify_of_undeclared undeclared, RecordStep.unpack_numbers_ok]
    simp only [undeclared, false_implies, true_and, Module.unpack, unpackAs, unpackBy, known, Logged.result_of,
      mapError_ok_iff,
      unpackNumber]
    constructor
    · rintro ⟨b, found, rfl, rfl⟩
      have found : data.window offset format.size = .ok b := found
      have length : b.length = format.size := Bytes.length_of_window short found
      refine ⟨format.read b, by simp [found], ?_⟩
      simp [RecordStep.readNumbers, ← length]
    · rintro ⟨v, read, rfl⟩
      obtain ⟨b, found, same⟩ := of_map_ok read
      cases same
      have length : b.length = format.size := Bytes.length_of_window short found
      exact ⟨b, found, by simp, by simp [RecordStep.readNumbers, ← length]⟩
  | used undeclared step unknown found =>
    rw [step, Interface.qualify_of_undeclared undeclared]
    simp [RecordStep.unpack, single_ok_iff, Module.unpack, unpackAs, unpackBy, unknown, found, RegisteredType.unpack,
      mapError_ok_iff, undeclared]
  | named undeclared step =>
    rw [step, Interface.qualify_of_undeclared undeclared]
    simp [RecordStep.unpack, single_ok_iff, unpackAs_ok_iff deep short, undeclared]

end Unpacking

/-! ## Records and lists of arguments -/

theorem packEach_cons_ok {rest : List (Text × Value)} : packEach (m.pack registry) ((type, v) :: rest) = .ok b ↔
      ∃ first later, m.pack registry type v = .ok first ∧ packEach (m.pack registry) rest = .ok later ∧
        b = first ++ later :=
  append_ok_iff

theorem packAll_ok_iff (each : List.Forall₂ (fun a v => m.Travels registry a ∧
      Keyed.get? a.fieldName fields = some (v, m.packOwn registry v)) attributes values) :
    RecordStep.packAll registry r fields (attributes.map m.interface.step) = .ok b ↔
      packEach (m.pack registry) ((attributes.map fun a => m.interface.qualify none a.type).zip values) = .ok b := by
  induction each generalizing b with
  | nil => rfl
  | cons first _ ih =>
    rw [List.map_cons, RecordStep.packAll_cons_ok, List.map_cons, List.zip_cons_cons, packEach_cons_ok]
    simp only [first.1.pack_ok_iff first.2, ih]

theorem unpackArguments_cons_ok {types : List Text} {offset : Int} :
    (m.unpackArguments registry (type :: types) data offset).result = .ok (values, n) ↔
      ∃ v size later sizes, (m.unpack registry type data offset).result = .ok (v, size) ∧
        (m.unpackArguments registry types data (offset + size)).result = .ok (later, sizes) ∧
        values = v :: later ∧ n = size + sizes := by
  simp only [unpackEach, Logged.result_bind, Logged.result_mapFault, Logged.result_pure]
  constructor
  · intro unpacked
    obtain ⟨⟨v, size⟩, read, unpacked⟩ := of_bind_ok unpacked
    obtain ⟨⟨later, sizes⟩, readLater, unpacked⟩ := of_bind_ok unpacked
    cases unpacked
    exact ⟨v, size, later, sizes, of_mapError_ok read, readLater, rfl, rfl⟩
  · rintro ⟨v, size, later, sizes, read, readLater, rfl, rfl⟩
    simp [read, readLater]

/-- Attributes are read as arguments of their types, if the function that unpacks their record sees their classes. -/
theorem unpackAll_ok_iff {depth : Nat} (deep : m.interface.records.length < depth) {data : Bytes}
    (short : data.length < 2 ^ 63) {attributes : List Parameter} (each : ∀ a ∈ attributes, m.Travels registry a)
    {offset : Nat} {values : List Value} {n : Nat} :
    (RecordStep.unpackAll m.interface registry (m.unpackOwn registry depth) r data (attributes.map m.interface.step)
        offset).result = .ok (values, n) ↔
      (∀ a ∈ attributes, m.interface.Declares a.type → m.interface.qualify none a.type ∉ r.locals) ∧
        (m.unpackArguments registry (attributes.map fun a => m.interface.qualify none a.type) data offset).result =
          .ok (values, n) := by
  induction attributes generalizing offset values n with
  | nil => simp [RecordStep.unpackAll, unpackEach]
  | cons a rest ih =>
    have later {size : Nat} {values : List Value} {n : Nat} := @ih (List.forall_mem_cons.mp each).2 (offset + size) values n
    simp only [Int.natCast_add] at later
    rw [List.map_cons, RecordStep.unpackAll_cons_ok, List.map_cons, unpackArguments_cons_ok, List.forall_mem_cons]
    simp only [(each a (by simp)).unpack_ok_iff deep short, later]
    constructor
    · rintro ⟨_, size, values, sizes, ⟨seen, v, read, rfl⟩, ⟨seenLater, readLater⟩, rfl, rfl⟩
      exact ⟨⟨seen, seenLater⟩, v, size, values, sizes, read, readLater, rfl, rfl⟩
    · rintro ⟨⟨seen, seenLater⟩, v, size, values, sizes, read, readLater, rfl, rfl⟩
      exact ⟨[v], size, values, sizes, ⟨seen, v, read, rfl⟩, ⟨seenLater, readLater⟩, rfl, rfl⟩

end Module

/-- The record with given values of its attributes. -/
def RecordDecl.holding (r : RecordDecl) (values : List Value) : Value :=
  .record r.name ((r.attributes.map (·.fieldName)).zip values)

/-- The types of the attributes of a record, by the names under which they are registered. -/
def Interface.attributeTypes (i : Interface) (r : RecordDecl) : List Text :=
  r.attributes.map fun a => i.qualify none a.type

namespace Module

variable {m : Module} {registry : Registry} {r : RecordDecl}

theorem Unambiguous.definition?_of_mem (clear : m.Unambiguous) (declared : r ∈ m.interface.records) :
    m.definition? r.name = some (.record r) := by
  apply Scope.find?_of_mem clear.classes
  apply List.mem_append_left
  apply List.mem_append_right
  exact List.mem_map.mpr ⟨r, declared, rfl⟩

private theorem get?_holding (distinct : (r.attributes.map (·.fieldName)).Nodup)
    (length : values.length = r.attributes.length) {a : Parameter} (among : (a, v) ∈ r.attributes.zip values) :
    Keyed.get? a.fieldName (m.packedFields registry ((r.attributes.map (·.fieldName)).zip values)) =
      some (v, m.packOwn registry v) := by
  have distinct : (((r.attributes.map (·.fieldName)).zip values).map (·.1)).Nodup := by
    rw [List.map_fst_zip (by simp [length])]
    exact distinct
  have there : (a.fieldName, v) ∈ (r.attributes.map (·.fieldName)).zip values := by
    rw [List.zip_map_left]
    exact List.mem_map.mpr ⟨(a, v), among, rfl⟩
  exact get?_packedFields_of_mem m registry distinct there

/-- A record has the bytes of the list of its values; and it is read where that list is read, unless the function that
unpacks it has the name of a class of an attribute for something of its own. -/
theorem record_codecs_iff (clear : m.Unambiguous)
    (apart : ∀ name ∈ m.interface.usedEnums, name ∉ m.interface.emittedEnums.map (·.1))
    (registered : m.register {} = (.ok (), registry)) (declared : r ∈ m.interface.records) :
    (∀ values b, values.length = r.attributes.length →
      (m.packOwn registry (r.holding values) = .ok b ↔
        m.packArguments registry (m.interface.attributeTypes r) values = .ok b)) ∧
      ∀ data (offset : Nat) v n, data.length < 2 ^ 63 →
        ((m.unpackOwn registry (m.unpackDepth data) r.name data offset).result = .ok (v, n) ↔
          (∀ a ∈ r.attributes, m.interface.Declares a.type → m.interface.qualify none a.type ∉ r.locals) ∧
            ∃ values, (m.unpackArguments registry (m.interface.attributeTypes r) data offset).result = .ok (values, n) ∧
              v = r.holding values) := by
  have travels := travels clear (Interface.named_of_isSound clear.sound) apart registered
  have defined := clear.definition?_of_mem declared
  constructor
  · intro values b length
    have distinct : (r.attributes.map (·.fieldName)).Nodup := nodup_fieldNames clear.sound declared
    rw [packArguments, packArgumentsBy, if_pos (by simp [Interface.attributeTypes, length]), RecordDecl.holding, packOwn,
      recordClass?, defined]
    exact RecordStep.packAll_recordSteps.trans (packAll_ok_iff (List.forall₂_iff_zip.mpr
      ⟨length.symm, fun among => ⟨travels _, get?_holding distinct length among⟩⟩))
  · intro data offset v n short
    obtain ⟨depth, enough, deep⟩ : ∃ depth, m.unpackDepth data = depth + 1 ∧ m.interface.records.length < depth := by
      have large : m.interface.records.length + 2 ≤ m.unpackDepth data := Nat.le_mul_of_pos_right _ (by omega)
      exact ⟨m.unpackDepth data - 1, by omega, by omega⟩
    rw [enough, unpackOwn_record_ok_iff defined short]
    simp only [unpackAll_ok_iff deep short fun a _ => travels a, Interface.attributeTypes, RecordDecl.holding, and_assoc,
      exists_and_left]

def margins : Module where
  interface := { records := [{ name := "offset", attributes := [⟨"int", "x"⟩] },
    { name := "Margins", attributes := [⟨"offset", "left"⟩, ⟨"short", "width"⟩] }] }

theorem margins_unambiguous : margins.Unambiguous where
  sound := by decide +kernel
  classes := by decide +kernel
  builtin := by decide +kernel
  used := by decide +kernel
  records := by decide +kernel
  grounded := Interface.grounded_of_rank List.length (by decide +kernel)

private theorem register_of_isOk {before : Registry} (done : (m.register before).1.isOk) :
    m.register before = (.ok (), (m.register before).2) := by
  obtain ⟨_, done⟩ := exists_of_isOk done
  exact Prod.ext done rfl

def lineValues : List Value :=
  [.record "Dot" [("x", .integer 1), ("y", .integer (-2))], .enumerator "Pen_Mode" "Down" 3, .integer 200,
    .integer (-300), .text "é", .integer 7]

def lineBytes : Bytes := [0, 0, 0, 1, 255, 255, 255, 254, 3, 200, 254, 212, 0, 0, 0, 2, 0, 233, 0, 0, 0, 7]

private theorem line_packed : drawing.packOwn (drawing.register {}).2 line = .ok lineBytes := by
  have packed : (drawing.packOwn (drawing.register {}).2 line).toOption = some lineBytes := by decide +kernel
  cases done : drawing.packOwn (drawing.register {}).2 line with
  | error e =>
    rw [done] at packed
    cases packed
  | ok b =>
    rw [done] at packed
    cases packed
    rfl

set_option maxRecDepth 4000 in
private theorem line_read :
    (drawing.unpackArguments (drawing.register {}).2 ["Dot", "Pen_Mode", "quint8", "short", "QString", "Style"] lineBytes
      (0 : Nat)).result = .ok (lineValues, 22) :=
  rfl

theorem record_codecs_iff_drawing :
    drawing.packArguments (drawing.register {}).2 ["Dot", "Pen_Mode", "quint8", "short", "QString", "Style"] lineValues =
        .ok lineBytes ∧
      (drawing.unpackOwn (drawing.register {}).2 (drawing.unpackDepth lineBytes) "Line" lineBytes (0 : Nat)).result =
        .ok (line, 22) ∧
      (margins.unpackArguments (margins.register {}).2 ["offset", "short"] [0, 0, 0, 5, 0, 7] (0 : Nat)).result.isOk ∧
      ∀ v n, (margins.unpackOwn (margins.register {}).2 (margins.unpackDepth [0, 0, 0, 5, 0, 7]) "Margins"
        [0, 0, 0, 5, 0, 7] (0 : Nat)).result ≠ .ok (v, n) := by
  have registered : drawing.register {} = (.ok (), (drawing.register {}).2) := register_of_isOk (by decide +kernel)
  have drawn := record_codecs_iff drawing_unambiguous (by decide +kernel) registered
    (List.mem_cons_of_mem _ List.mem_cons_self)
  have registeredToo : margins.register {} = (.ok (), (margins.register {}).2) := register_of_isOk (by decide +kernel)
  have measured := record_codecs_iff margins_unambiguous (by decide +kernel) registeredToo
    (List.mem_cons_of_mem _ List.mem_cons_self)
  refine ⟨(drawn.1 lineValues lineBytes rfl).mp line_packed,
    (drawn.2 lineBytes 0 line 22 (by decide)).mpr ⟨by decide +kernel, lineValues, line_read, rfl⟩, by decide +kernel,
    fun v n read => ?_⟩
  exact absurd ((measured.2 _ 0 v n (by decide)).mp read).1 (by decide +kernel)

end Module

end Counterpart
