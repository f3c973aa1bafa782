import Counterpart.Proofs.Binding
import Counterpart.Proofs.Lookups
import Mathlib.Logic.Relation

/-!
The ids of types in descriptors. A unit registers types under names that it makes in one pass over its declarations, and
a descriptor looks for names that are made in another; both write a name between double quotes as it is. The main
statement says that a parameter has an id that names its type for good, whatever was registered before and is
registered after.
-/
namespace Counterpart

variable {c : CodePoint} {registry : Registry} {t read separator type : Text}

/-! ## Registries that grow -/

namespace Registry

variable {γ : Type} {r later : Registry γ} {name : Text} {id : Int}

/-- Types that are registered one after another lead from one registry to the other. -/
def Reaches : Registry γ → Registry γ → Prop :=
  Relation.ReflTransGen fun r later => ∃ c : Call γ, (r.call c).2 = later

theorem reaches_call (r : Registry γ) (c : Call γ) : r.Reaches (r.call c).2 := .single ⟨c, rfl⟩

theorem Numbered.reaches (numbered : r.Numbered) (path : r.Reaches later) : later.Numbered := by
  induction path with
  | refl => exact numbered
  | tail _ step ih =>
    obtain ⟨c, rfl⟩ := step
    exact ih.call c

theorem HasId.call (has : r.HasId name id) (c : Call γ) : (r.call c).2.HasId name id := by
  obtain ⟨place, builtin | ⟨there, same⟩⟩ := has
  · exact ⟨place, .inl builtin⟩
  · obtain ⟨rest, whole⟩ := names_prefix_call r c
    refine ⟨place, .inr ⟨?_, same⟩⟩
    rw [← whole, List.getElem?_append_left (List.getElem?_eq_some_iff.mp there).1, there]

theorem HasId.reaches (has : r.HasId name id) (path : r.Reaches later) : later.HasId name id := by
  induction path with
  | refl => exact has
  | tail _ step ih =>
    obtain ⟨c, rfl⟩ := step
    exact ih.call c

theorem HasId.ne_unknown (has : r.HasId name id) : id ≠ unknownId := by
  obtain ⟨place, ⟨-, rfl⟩ | ⟨-, rfl⟩⟩ := has <;> simp only [unknownId] <;> omega

theorem exists_hasId_call (r : Registry γ) (c : Call γ) : ∃ id, (r.call c).2.HasId c.name id := by
  apply exists_hasId
  by_cases builtin : c.name ∈ Builtin.names
  · exact .inl builtin
  · refine .inr ?_
    by_cases known : c.name ∈ r.names
    · rwa [names_call_of_old (.inr known)]
    · simp [names_call_of_new builtin known]

end Registry

namespace Module

variable {m : Module}

/-- After registrations, each name that was read has an id. -/
theorem hasId_of_registerEach {rs : List Registration} {later : Registry}
    (done : m.registerEach rs registry = (.ok (), later)) :
    registry.Reaches later ∧ ∀ r ∈ rs, ∃ id, later.HasId r.readName id := by
  induction rs generalizing registry with
  | nil =>
    cases done
    exact ⟨.refl, by simp⟩
  | cons r rest ih =>
    rw [registerEach] at done
    split at done
    next type codec _ =>
      let call : Registry.Call Codec := ⟨r.readName, type, codec⟩
      obtain ⟨path, named⟩ := ih done
      obtain ⟨id, has⟩ := registry.exists_hasId_call call
      exact ⟨(registry.reaches_call call).trans path, List.forall_mem_cons.mpr ⟨⟨id, has.reaches path⟩, named⟩⟩
    next => cases done

end Module

/-! ## Symbols -/

namespace Text

private theorem mem_dotted_of_mem (among : c ∈ t) : c = ':' ∨ c ∈ t.dotted := by
  fun_induction dotted t with
  | case1 => cases among
  | case2 => exact .inr among
  | case3 first second rest isScope ih =>
    simp only [Bool.and_eq_true, decide_eq_true_eq] at isScope
    rcases List.mem_cons.mp among with rfl | among
    · exact .inl isScope.1
    · rcases List.mem_cons.mp among with rfl | among
      · exact .inl isScope.2
      · exact (ih among).imp_right (List.mem_cons_of_mem _)
  | case4 first second rest _ ih =>
    rcases List.mem_cons.mp among with rfl | among
    · exact .inr List.mem_cons_self
    · exact (ih among).imp_right (List.mem_cons_of_mem _)

private theorem mem_splitAt_of_mem {mark : CodePoint} (among : c ∈ t) :
    c = mark ∨ ∃ piece ∈ t.splitAt mark, c ∈ piece := by
  induction t with
  | nil => cases among
  | cons first rest ih =>
    rw [splitAt]
    rcases List.mem_cons.mp among with rfl | among
    · by_cases isMark : c = mark
      · exact .inl isMark
      · rw [if_neg isMark]
        split <;> simp
    · refine (ih among).imp_right ?_
      rintro ⟨piece, isPiece, inside⟩
      split
      · exact ⟨piece, List.mem_cons_of_mem _ isPiece, inside⟩
      · split
        next head tail pieces =>
          rw [pieces] at isPiece
          rcases List.mem_cons.mp isPiece with rfl | isPiece
          · exact ⟨_, List.mem_cons_self, List.mem_cons_of_mem _ inside⟩
          · exact ⟨piece, List.mem_cons_of_mem _ isPiece, inside⟩
        next pieces =>
          rw [pieces] at isPiece
          cases isPiece

/-- A symbol is made of words, points and colons, so that it is read back. -/
theorem isBare_of_isSymbol (symbol : t.isSymbol) : t.IsBare := by
  intro c among
  have kind : c = ':' ∨ c = '.' ∨ c.isWord := by
    refine (mem_dotted_of_mem among).imp_right fun dotted => ?_
    refine (mem_splitAt_of_mem dotted).imp_right ?_
    rintro ⟨piece, isPiece, inside⟩
    exact isWord_of_isNamePart (List.all_eq_true.mp symbol piece isPiece) c inside
  refine ⟨?_, ?_, ?_, ?_, ?_⟩ <;>
  · rintro rfl
    exact absurd kind (by decide)

private theorem cutLast?_of_append {a b : Text} (uncut : cutLast? separator (a ++ b) = none) :
    cutLast? separator b = none := by
  induction a with
  | nil => exact uncut
  | cons c a ih =>
    rw [List.cons_append, cutLast?] at uncut
    cases cut : cutLast? separator (a ++ b) with
    | none => exact ih cut
    | some parts => simp [cut] at uncut

/-- What follows the last separator cannot be cut again. -/
theorem cutLast?_of_cutLast? {before rest : Text} (any : separator ≠ [])
    (found : cutLast? separator t = some (before, rest)) : cutLast? separator rest = none := by
  induction t generalizing before with
  | nil => cases found
  | cons c t ih =>
    rw [cutLast?] at found
    split at found
    next cut =>
      cases found
      exact ih cut
    next uncut =>
      obtain ⟨_, after, same⟩ := Option.map_eq_some_iff.mp found
      cases same
      have whole := eq_of_after? after
      cases separator with
      | nil => exact absurd rfl any
      | cons first separator =>
        rw [List.cons_append, List.cons.injEq] at whole
        exact cutLast?_of_append (whole.2 ▸ uncut)

end Text

/-! ## Names of types -/

namespace Interface

variable {i : Interface} {c : ClassDecl}

/-- A type that names no enum of a class by its scope becomes an emitted name, or it stays. -/
private theorem qualify_of_classEnum?_eq_none (declared : c ∈ i.classes)
    (none : i.classEnum? (splitScope type).1 (splitScope type).2 = none) :
    i.qualify (some c) type ∈ i.emittedEnums.map (·.1) ∨ i.qualify (some c) type = type := by
  by_cases isEnum : c.hasEnum type
  · exact .inl (qualify_mem_emittedEnums declared isEnum)
  · exact .inr (by simp [qualify, none, isEnum])

theorem qualify_of_unscoped (declared : c ∈ i.classes) (unscoped : splitScope type = ([], type)) :
    i.qualify (some c) type ∈ i.emittedEnums.map (·.1) ∨ i.qualify (some c) type = type := by
  cases meant : i.classEnum? (splitScope type).1 (splitScope type).2 with
  | none => exact qualify_of_classEnum?_eq_none declared meant
  | some e =>
    obtain ⟨other, among, -, isEnum⟩ := isSome_classEnum?_iff.mp (Option.isSome_iff_exists.mpr ⟨e, meant⟩)
    -- the name is the same from whatever class it is seen
    have same : i.qualify (some other) type = i.qualify (some c) type := by simp [qualify, meant]
    rw [unscoped] at isEnum
    exact .inl (same ▸ qualify_mem_emittedEnums among isEnum)

/-- Inside its class an enum has the name that it has outside with its scope, unless a class without a name has an enum
of that name. -/
theorem exists_class_of_classEnum? (given : CodePoint.absent ∉ type)
    (clear : ∀ nameless ∈ i.classes, nameless.name = [] → nameless.hasEnum (splitScope type).2 →
      (splitScope type).1 = []) (cls? : Option ClassDecl) {e : EnumDecl}
    (meant : i.classEnum? (splitScope type).1 (splitScope type).2 = some e) :
    ∃ c ∈ i.classes, e ∈ c.enums ∧ i.qualify (some c) e.name = i.qualify cls? type := by
  obtain ⟨c, among, found⟩ := List.exists_of_findSome?_eq_some meant
  obtain ⟨among, isScope⟩ := List.mem_filter.mp among
  have isEnum := List.mem_of_find?_eq_some found
  have isName : e.name = (splitScope type).2 := by simpa using List.find?_some found
  have isScope : c.name = (splitScope type).1 := by simpa using isScope
  refine ⟨c, among, isEnum, ?_⟩
  have unscoped : splitScope (splitScope type).2 = ([], (splitScope type).2) := by
    cases cut : Text.cutLast? "::" type with
    | none => simp [splitScope, cut]
    | some parts => simp [splitScope, cut, Text.cutLast?_of_cutLast? (by decide) cut]
  rw [isName]
  by_cases empty : (splitScope type).1 = []
  · rw [empty] at meant
    simp [qualify, unscoped, meant, empty]
  · have none : ¬ (i.classEnum? [] (splitScope type).2).isSome := by
      rw [isSome_classEnum?_iff]
      rintro ⟨nameless, isClass, noName, hasToo⟩
      exact empty (clear nameless isClass noName hasToo)
    have hasEnum : c.hasEnum (splitScope type).2 := List.any_eq_true.mpr ⟨e, isEnum, by simp [isName]⟩
    have shown : (splitScope type).1.shown = (splitScope type).1 ∧ (splitScope type).2.shown = (splitScope type).2 := by
      cases cut : Text.cutLast? "::" type with
      | none => simp [splitScope, cut] at empty
      | some parts =>
        rw [Text.eq_of_cutLast? cut, List.mem_append, List.mem_append, not_or, not_or] at given
        simp [splitScope, cut, Text.shown_of_notMem given.1.1, Text.shown_of_notMem given.2]
    simp [qualify, meant, unscoped, none, hasEnum, isScope, shown]

theorem qualify_of_clear (declared : c ∈ i.classes) (given : CodePoint.absent ∉ type)
    (clear : ∀ nameless ∈ i.classes, nameless.name = [] → nameless.hasEnum (splitScope type).2 →
      (splitScope type).1 = []) :
    i.qualify (some c) type ∈ i.emittedEnums.map (·.1) ∨ i.qualify (some c) type = type := by
  cases meant : i.classEnum? (splitScope type).1 (splitScope type).2 with
  | none => exact qualify_of_classEnum?_eq_none declared meant
  | some e =>
    obtain ⟨other, among, isEnum, same⟩ := exists_class_of_classEnum? given clear (some c) meant
    refine .inl (same ▸ qualify_mem_emittedEnums among (List.any_eq_true.mpr ⟨e, isEnum, by simp⟩))

theorem exists_registration {name : Text}
    (known : name ∈ i.usedEnums ∨ name ∈ i.emittedEnums.map (·.1) ∨
      name ∈ i.metatypes (fun c t => i.qualify (some c) t) ∧ name.isSymbol) :
    ∃ r ∈ i.registrations, r.name = name := by
  by_cases used : name ∈ i.usedEnums
  · exact ⟨_, mem_registrations.mpr ⟨name, .inl ⟨used, rfl⟩⟩, rfl⟩
  · by_cases emitted : name ∈ i.emittedEnums.map (·.1)
    · exact ⟨_, mem_registrations.mpr ⟨name, .inr ⟨used, .inl ⟨emitted, rfl⟩⟩⟩, rfl⟩
    · obtain ⟨mentioned, symbol⟩ := (known.resolve_left used).resolve_left emitted
      exact ⟨_, mem_registrations.mpr ⟨name, .inr ⟨used, .inr ⟨emitted, mentioned, symbol, rfl⟩⟩⟩, rfl⟩

/-- The type is builtin, it is a symbol as the class sees it, or it is declared elsewhere. In the last case no class
without a name may have an enum by the last part of a name with a scope. -/
def IsIdentified (i : Interface) (c : ClassDecl) (type : Text) : Prop :=
  Builtin.isBuiltin type ∨ (i.qualify (some c) type).isSymbol ∨
    type ∈ i.usedEnums ∧ CodePoint.absent ∉ type ∧
      ∀ nameless ∈ i.classes, nameless.name = [] → nameless.hasEnum (splitScope type).2 → (splitScope type).1 = []

theorem IsIdentified.isRegistered (identified : i.IsIdentified c type) (declared : c ∈ i.classes)
    (mentioned : type ∈ c.mentions) :
    i.qualify (some c) type ∈ Builtin.names ∨ ∃ r ∈ i.registrations, r.name = i.qualify (some c) type := by
  by_cases builtin : Builtin.isBuiltin type
  · have among := Builtin.isBuiltin_iff.mp builtin
    have unscoped : ∀ name ∈ Builtin.names, splitScope name = ([], name) := by decide
    rcases qualify_of_unscoped declared (unscoped type among) with emitted | same
    · exact .inr (exists_registration (.inr (.inl emitted)))
    · exact .inl (same.symm ▸ among)
  · refine .inr (exists_registration ?_)
    rcases identified.resolve_left builtin with symbol | ⟨used, given, clear⟩
    · exact .inr (.inr ⟨mem_metatypes_iff.mpr (.inr ⟨c, declared, type, mentioned, builtin, rfl⟩), symbol⟩)
    · rcases qualify_of_clear declared given clear with emitted | same
      · exact .inr (.inl emitted)
      · exact .inl (same.symm ▸ used)

end Interface

theorem ClassDecl.mem_mentions_of_operation {c : ClassDecl} {kind : MemberKind} {operation : Text × List Text}
    (declared : operation ∈ c.ordinals.operations kind) (among : type ∈ operation.2) :
    type ∈ c.mentions := by
  cases kind with
  | property => cases declared
  | signal =>
    obtain ⟨s, numbered, rfl⟩ := List.mem_map.mp declared
    exact mem_mentions_of_signal numbered among
  | method =>
    obtain ⟨n, numbered, rfl⟩ := List.mem_map.mp declared
    have isSlot : n.slot ∈ c.slots := map_slot_ordinals c ▸ List.mem_map_of_mem numbered
    exact mem_mentions (List.mem_append_right _ isSlot) (List.mem_cons_of_mem _ among)

/-! ## Main statement -/

theorem Registration.readName_eq {r : Registration} (isRead : r.name.reread = .ok read) : r.readName = read := by
  rw [readName, isRead]
  rfl

theorem Text.eq_of_reread (plain : t.isSymbol ∨ t ∈ Builtin.names ∨ t.IsBare)
    (isRead : t.reread = .ok read) : read = t := by
  have bare : t.IsBare := by
    rcases plain with symbol | builtin | bare
    · exact isBare_of_isSymbol symbol
    · exact isBare_of_builtin t builtin
    · exact bare
  rw [reread_of_isBare bare, Except.ok.injEq] at isRead
  exact isRead.symm

/-- After a unit has registered its types, in whatever registry, the name of an identified type has an id as it is
read. -/
theorem Module.exists_hasId_of_register {m : Module} {before : Registry}
    (registered : m.register before = (.ok (), registry)) {c : ClassDecl} (declared : c ∈ m.interface.classes)
    (mentioned : type ∈ c.mentions) (identified : m.interface.IsIdentified c type)
    (isRead : (m.interface.qualify (some c) type).reread = .ok read) : ∃ id, registry.HasId read id := by
  rcases identified.isRegistered declared mentioned with builtin | ⟨r, among, named⟩
  · rw [Text.eq_of_reread (.inr (.inl builtin)) isRead]
    exact Registry.exists_hasId (.inl builtin)
  · rw [← named] at isRead
    rw [← Registration.readName_eq isRead]
    exact (hasId_of_registerEach registered).2 r among

namespace Descriptor

/-- Where a unit registers its types, in a registry that any registrations led to, and one of its classes is then bound,
the look-ups tell an id of each parameter of an identified type, also where they are called, unless an enum of the class
takes their place. Whatever is registered later, the id names the type as the class sees it, as far as that name is read
back. -/
theorem paramTypes_named_for_good {m : Module} {before registry : Registry} {c : ClassDecl} {l : Lineage}
    {d : Descriptor} (reached : Registry.Reaches {} before) (registered : m.register before = (.ok (), registry))
    (declared : c ∈ m.interface.classes) (made : IsBound m registry c l d) {kind : MemberKind} {n j : Nat}
    {operation : Text × List Text} (numbered : (c.ordinals.operations kind)[n]? = some operation) {type : Text}
    (placed : operation.2[j]? = some type) (identified : m.interface.IsIdentified c type) :
    let name := m.interface.qualify (some c) type
    ∃ (id : Int) (read : Text),
      d.lookUp (kind.word ++ "_parameter_type") [.integer n, .integer j] = .ok (.integer id) ∧
      ((∀ e ∈ c.enums, e.name ∉ functionNames) → ∀ react (w : Session.World) object o,
        Keyed.get? object w.objects = some o → o.lineage = m.interface.descriptorLineage c → o.state = .descriptor d →
        (Session.callMember react object (kind.word ++ "_parameter_type") (pure [.integer n, .integer j])).outcome w =
          (.ok (.value (.integer id)), w)) ∧
      id ≠ Registry.unknownId ∧ name.reread = .ok read ∧
      (name.isSymbol ∨ name ∈ Builtin.names ∨ name.IsBare → read = name) ∧
      ∀ later, registry.Reaches later → later.typeName id = read := by
  intro name
  have describes := (tabulates_of_bind made.bound).describes
  have operates : kind ≠ .property := by
    rintro rfl
    cases numbered
  have mentioned : type ∈ c.mentions :=
    ClassDecl.mem_mentions_of_operation (List.mem_of_getElem? numbered) (List.mem_of_getElem? placed)
  obtain ⟨_, told, read, isRead, rfl⟩ := (describes.paramType kind n operation numbered).inside j type placed
  obtain ⟨id, has⟩ := Module.exists_hasId_of_register registered declared mentioned identified isRead
  have counted : registry.Numbered :=
    (Registry.numbered_empty.reaches reached).reaches (Module.hasId_of_registerEach registered).1
  have answered : d.lookUp (kind.word ++ "_parameter_type") [.integer n, .integer j] = .ok (.integer id) := by
    rw [describes.paramTypeOfKind kind operates, told, counted.typeId_eq has]
  refine ⟨id, read, answered, fun apart react w object o there lineage state => ?_, has.ne_unknown, isRead,
    fun plain => Text.eq_of_reread plain isRead, fun later path => ?_⟩
  · have known : kind.word ++ "_parameter_type" ∈ Keyed.keys Layer.lookUps := by
      cases kind with
      | property => exact absurd rfl operates
      | signal => decide
      | method => decide
    rw [outcome_lookUp apart known react _ there lineage state, answered]
    rfl
  · exact (counted.reaches path).typeName_eq (has.reaches path)

def wicket : ClassDecl where
  name := "Wicket"
  enums := [{ name := "Mode", enumerators := [⟨"Shut", .number 0⟩] }]

/-- A class that mentions the enum of the other, and one that is declared elsewhere. -/
def gate : ClassDecl where
  name := "Gate"
  signals := [{ name := "moved", params := [⟨"x\\ty", "by"⟩] }]
  slots := [{ name := "shut", params := [⟨"Wicket::Mode", "mode"⟩] }]

def yard : Module where
  interface := { classes := [wicket, gate], usedEnums := ["x\\ty"] }

/-- Another type had the name of the enum before, and one takes the other name after. The name of the enum that is
declared elsewhere is read with a tab. -/
theorem paramTypes_named_for_good_yard :
    ∃ (before registry later : Registry) (d : Descriptor), before.names = ["Wicket_Mode"] ∧
      yard.register before = (.ok (), registry) ∧ later = (registry.call ⟨"x\ty", .foreign "Key", .own⟩).2 ∧
      bind yard.interface registry gate (yard.interface.simpleSourceLineage gate) = .ok d ∧
      (∃ id : Int, d.lookUp "signal_parameter_type" [.integer 0, .integer 0] = .ok (.integer id) ∧ id ≠ -1 ∧
        later.typeName id = "x\ty") ∧
      ∃ id : Int, d.lookUp "method_parameter_type" [.integer 0, .integer 0] = .ok (.integer id) ∧ id ≠ -1 ∧
        later.typeName id = "Wicket_Mode" := by
  let before : Registry := (Registry.call {} ⟨"Wicket_Mode", .foreign "Mode", .byte⟩).2
  obtain ⟨registry, registered, d, bound⟩ : ∃ registry, yard.register before = (.ok (), registry) ∧
      ∃ d, bind yard.interface registry gate (yard.interface.simpleSourceLineage gate) = .ok d := by
    have done : (yard.register before).1.isOk ∧
        (bind yard.interface (yard.register before).2 gate (yard.interface.simpleSourceLineage gate)).isOk := by
      decide +kernel
    generalize yard.register before = outcome at done ⊢
    obtain ⟨_ | _, registry⟩ := outcome
    · cases done.1
    · exact ⟨registry, rfl, exists_of_isOk done.2⟩
  have reached : Registry.Reaches {} before := Registry.reaches_call _ _
  have declared : gate ∈ yard.interface.classes := by simp [yard]
  have unhidden : yard.Unhidden := by decide +kernel
  have path := registry.reaches_call ⟨"x\ty", .foreign "Key", .own⟩
  refine ⟨before, registry, _, d, by decide +kernel, registered, rfl, bound, ?_, ?_⟩
  · have numbered : (gate.ordinals.operations .signal)[0]? =
        some (("moved(x\\ty)" : Text), (["x\\ty"] : List Text)) := by decide +kernel
    have identified : yard.interface.IsIdentified gate "x\\ty" := .inr (.inr ⟨by simp [yard], by decide, by decide⟩)
    obtain ⟨id, read, told, -, known, isRead, -, named⟩ :=
      paramTypes_named_for_good (j := 0) reached registered declared ⟨unhidden, bound⟩ numbered rfl identified
    have isTab : (yard.interface.qualify (some gate) "x\\ty").reread.toOption = some "x\ty" := by decide +kernel
    rw [isRead] at isTab
    exact ⟨id, told, known, (named _ path).trans (Option.some.inj isTab)⟩
  · have numbered : (gate.ordinals.operations .method)[0]? =
        some (("shut(Wicket::Mode)" : Text), (["Wicket::Mode"] : List Text)) := by decide +kernel
    have identified : yard.interface.IsIdentified gate "Wicket::Mode" := .inr (.inl (by decide))
    obtain ⟨id, read, told, -, known, -, same, named⟩ :=
      paramTypes_named_for_good (j := 0) reached registered declared ⟨unhidden, bound⟩ numbered rfl identified
    exact ⟨id, told, known, (named _ path).trans (same (.inl (by decide)))⟩

end Descriptor

end Counterpart
