import Counterpart.Proofs.RecordCodecs

/-!
The types that the declarations of a unit refer to. Several functions make names of them, each in a pass of its own: the
name that an enum is emitted under, what values are annotated with and checked against, the default of a type, and the
name that it is registered under. The main statements say that each type is registered once, in the order in which
types are first referred to, and where the names that are made of one type agree.
-/
namespace Counterpart

variable {e : EnumDecl} {α : Type}

/-! ## First references -/

/-- Without later repetitions, a list has its elements in the order of their first places. -/
theorem pairwise_idxOf_eraseDups [BEq α] [LawfulBEq α] (xs : List α) :
    xs.eraseDups.Pairwise fun a b => xs.idxOf a < xs.idxOf b := by
  induction xs using List.reverseRecOn with
  | nil => exact List.Pairwise.nil
  | append_singleton xs x ih =>
    have earlier {a : α} (among : a ∈ xs.eraseDups) :
        (xs ++ [x]).idxOf a = xs.idxOf a ∧ xs.idxOf a < xs.length := by
      have among := List.mem_eraseDups.mp among
      exact ⟨List.idxOf_append_of_mem among, List.idxOf_lt_length_iff.mpr among⟩
    have kept : ([x].removeAll xs).eraseDups = if x ∈ xs then [] else [x] := by
      by_cases repeated : x ∈ xs <;> simp [List.removeAll, repeated, List.eraseDups_cons]
    rw [List.eraseDups_append, List.pairwise_append, kept]
    refine ⟨ih.imp_of_mem fun left right less => ?_, by split <;> simp, fun a left b right => ?_⟩
    · rwa [(earlier left).1, (earlier right).1]
    · split at right
      next => cases right
      next isNew =>
        rw [List.mem_singleton.mp right, (earlier left).1, List.idxOf_append_of_notMem isNew]
        exact Nat.lt_add_right _ (earlier left).2

theorem Keyed.mem_set {κ : Type} [DecidableEq κ] {key : κ} {value : α} {entry : κ × α} {entries : List (κ × α)}
    (among : entry ∈ set key value entries) : entry = (key, value) ∨ entry ∈ entries := by
  induction entries with
  | nil => simpa [set] using among
  | cons first rest ih =>
    rw [set] at among
    split at among
    next same =>
      rw [← same]
      exact (List.mem_cons.mp among).imp_right (List.mem_cons_of_mem _)
    next =>
      rcases List.mem_cons.mp among with rfl | later
      · exact .inr List.mem_cons_self
      · exact (ih later).imp_right (List.mem_cons_of_mem _)

/-- The class refers to a type: by a property, or by what a signal or a slot returns or takes. -/
def ClassDecl.RefersTo (c : ClassDecl) (type : Text) : Prop :=
  (∃ p ∈ c.properties, p.type = type) ∨
    ∃ op ∈ c.signals ++ c.slots, op.returnType = type ∨ ∃ p ∈ op.params, p.type = type

theorem ClassDecl.mem_mentions_iff {c : ClassDecl} {type : Text} : type ∈ c.mentions ↔ c.RefersTo type := by
  simp only [mentions, RefersTo, Operation.paramTypes, List.mem_append, List.mem_flatMap, List.mem_map, List.mem_cons,
    eq_comm (a := type)]

theorem Text.dotted_of_notMem {t : Text} (free : CodePoint.ofChar '.' ∉ t.dotted) : t.dotted = t := by
  fun_induction dotted t with
  | case1 => rfl
  | case2 => rfl
  | case3 => exact absurd List.mem_cons_self free
  | case4 c d rest _ ih => rw [ih fun among => free (List.mem_cons_of_mem _ among)]

namespace Interface

variable {i : Interface}

/-- The types that need registration, as often as they are referred to: the records, then class by class the types of
properties, and for each signal and slot the type that it returns and those of its parameters. -/
def references (i : Interface) : List Text :=
  i.records.map (·.name) ++ i.classes.flatMap fun c =>
    ((c.properties.map (·.type) ++ (c.signals ++ c.slots).flatMap fun op => op.returnType :: op.params.map (·.type)).filter
      (!Builtin.isBuiltin ·)).map (i.qualify (some c))

theorem metatypes_eq (i : Interface) : (i.metatypes fun c t => i.qualify (some c) t) = i.references.eraseDups := rfl

theorem mem_emittedEnums_names_iff {name : Text} : name ∈ i.emittedEnums.map (·.1) ↔
    (∃ e ∈ i.enums, e.name = name) ∨ ∃ c ∈ i.classes, ∃ e ∈ c.enums, i.qualify (some c) e.name = name := by
  simp [emittedEnums]

def Filed (entries : List (Text × Registration)) : Prop :=
  (Keyed.keys entries).Nodup ∧ ∀ entry ∈ entries, entry.2.name = entry.1

theorem Filed.set {entries : List (Text × Registration)} (filed : Filed entries) (r : Registration) :
    Filed (Keyed.set r.name r entries) := by
  refine ⟨Keyed.nodup_keys_set filed.1, fun entry among => ?_⟩
  rcases Keyed.mem_set among with rfl | earlier
  · rfl
  · exact filed.2 entry earlier

theorem exists_filed (i : Interface) : ∃ entries, Filed entries ∧ i.registrations = entries.map (·.2) := by
  refine ⟨_, ?_, rfl⟩
  refine List.foldlRecOn _ _ (List.foldlRecOn _ _ (List.foldlRecOn _ _ ⟨List.nodup_nil, by simp⟩ ?_) ?_) ?_
  · intro entries filed entry among
    obtain ⟨e, -, rfl⟩ := List.mem_map.mp among
    exact filed.set ⟨e.1, e.1, none⟩
  · intro entries filed name _
    split
    next => exact filed.set ⟨name, name.dotted, none⟩
    next => exact filed
  · exact fun entries filed name _ => filed.set ⟨name, "int", some name.identifier⟩

theorem nodup_registrations (i : Interface) : (i.registrations.map (·.name)).Nodup := by
  obtain ⟨entries, filed, same⟩ := i.exists_filed
  have names : (entries.map (·.2)).map (·.name) = Keyed.keys entries := by
    rw [List.map_map]
    exact List.map_congr_left filed.2
  rw [same, names]
  exact filed.1

/-- The types that are referred to are collected once each, in the order in which that first happens, and the unit
registers them once each, with the enums that it emits and those that are declared elsewhere. The latter pass as
integers, by functions of their own, whatever else is said of them. -/
theorem registered_once (i : Interface) :
    let types := i.metatypes fun c t => i.qualify (some c) t
    (types.Nodup ∧
      (∀ name, name ∈ types ↔ (∃ r ∈ i.records, r.name = name) ∨ ∃ c ∈ i.classes, ∃ type, c.RefersTo type ∧
        ¬ Builtin.isBuiltin type ∧ i.qualify (some c) type = name) ∧
      types.Pairwise fun a b => i.references.idxOf a < i.references.idxOf b) ∧
    (i.registrations.map (·.name)).Nodup ∧
    (∀ name, name ∈ i.registrations.map (·.name) ↔ (∃ e ∈ i.enums, e.name = name) ∨
      (∃ c ∈ i.classes, ∃ e ∈ c.enums, i.qualify (some c) e.name = name) ∨ (name ∈ types ∧ name.isSymbol) ∨
      name ∈ i.usedEnums) ∧
    ∀ r ∈ i.registrations,
      (r.name ∈ i.usedEnums → r.symbol = "int" ∧ r.packer? = some ("_pack_" ++ r.name.identifier) ∧
        r.unpacker? = some ("_unpack_" ++ r.name.identifier)) ∧
      (r.name ∉ i.usedEnums → r.packer? = none ∧ r.unpacker? = none) := by
  intro types
  have ordered : types.Pairwise fun a b => i.references.idxOf a < i.references.idxOf b := by
    rw [show types = i.references.eraseDups from i.metatypes_eq]
    exact pairwise_idxOf_eraseDups i.references
  refine ⟨⟨ordered.imp ?_, fun name => ?_, ordered⟩, i.nodup_registrations, fun name => ?_, fun r among => ?_⟩
  · rintro a b less rfl
    exact absurd less (Nat.lt_irrefl _)
  · refine mem_metatypes_iff.trans ?_
    simp [ClassDecl.mem_mentions_iff]
  · rw [List.mem_map, ← or_assoc, ← mem_emittedEnums_names_iff]
    constructor
    · rintro ⟨r, among, rfl⟩
      obtain ⟨name, ⟨used, rfl⟩ | ⟨-, ⟨isEnum, rfl⟩ | ⟨-, mentioned, symbol, rfl⟩⟩⟩ := mem_registrations.mp among
      · exact .inr (.inr used)
      · exact .inl isEnum
      · exact .inr (.inl ⟨mentioned, symbol⟩)
    · rintro (isEnum | mentioned | used)
      · exact exists_registration (.inr (.inl isEnum))
      · exact exists_registration (.inr (.inr mentioned))
      · exact exists_registration (.inl used)
  · obtain ⟨name, ⟨used, rfl⟩ | ⟨notUsed, ⟨-, rfl⟩ | ⟨-, -, -, rfl⟩⟩⟩ := mem_registrations.mp among
    · exact ⟨fun _ => ⟨rfl, rfl, rfl⟩, fun notUsed => absurd used notUsed⟩
    · exact ⟨fun used => absurd used notUsed, fun _ => ⟨rfl, rfl⟩⟩
    · exact ⟨fun used => absurd used notUsed, fun _ => ⟨rfl, rfl⟩⟩

/-! ## Names of one type -/

variable {cls? : Option ClassDecl} {type : Text}

section

variable (member : ∀ c ∈ cls?, c ∈ i.classes)

include member

/-- An enum that a type means is one that the type names everywhere, or one of the class that it is seen from. -/
theorem enum?_cases (distinct : (i.classes.map (·.name)).Nodup) (meant : i.enum? cls? type = some e) :
    (i.enum? none type = some e ∧ i.qualify cls? type = i.qualify none type) ∨
      ∃ c ∈ cls?, c ∈ i.classes ∧ e ∈ c.enums ∧ e.name = type := by
  cases inScope : i.classEnum? (splitScope type).1 (splitScope type).2 with
  | some e' =>
    refine .inl ⟨?_, by simp [qualify, inScope]⟩
    simpa [enum?, inScope] using meant
  | none =>
    cases cls? with
    | none => exact .inl ⟨meant, rfl⟩
    | some c =>
      have declared := member c rfl
      cases inner : i.classEnum? c.name type with
      | some e' =>
        obtain ⟨other, among, found⟩ := List.exists_of_findSome?_eq_some inner
        obtain ⟨among, sameName⟩ := List.mem_filter.mp among
        cases List.inj_on_of_nodup_map distinct among declared (by simpa using sameName)
        have same : e' = e := by simpa [enum?, inScope, inner] using meant
        refine .inr ⟨c, rfl, declared, same ▸ List.mem_of_find?_eq_some found, ?_⟩
        simpa [same] using List.find?_some found
      | none =>
        have noEnum : ¬ c.hasEnum type := fun isEnum => by
          have some := isSome_classEnum?_iff.mpr ⟨c, declared, rfl, isEnum⟩
          simp [inner] at some
        refine .inl ⟨?_, by simp [qualify, inScope, noEnum]⟩
        simpa [enum?, inScope, inner] using meant

theorem qualify_of_no_enum (noEnum : i.enum? cls? type = none) : i.qualify cls? type = type := by
  cases inScope : i.classEnum? (splitScope type).1 (splitScope type).2 with
  | some e => simp [enum?, inScope] at noEnum
  | none =>
    cases cls? with
    | none => simp [qualify, inScope]
    | some c =>
      have noInner : ¬ c.hasEnum type := fun isEnum => by
        obtain ⟨e, inner⟩ := Option.isSome_iff_exists.mp (isSome_classEnum?_iff.mpr ⟨c, member c rfl, rfl, isEnum⟩)
        simp [enum?, inScope, inner] at noEnum
      simp [qualify, inScope, noInner]

theorem mem_emittedEnums_of_enum? (distinct : (i.classes.map (·.name)).Nodup) (given : CodePoint.absent ∉ type)
    (clear : ∀ nameless ∈ i.classes, nameless.name = [] → nameless.hasEnum (splitScope type).2 →
      (splitScope type).1 = []) (meant : i.enum? cls? type = some e) :
    (i.qualify cls? type, e.plan) ∈ i.emittedEnums := by
  have inner {c : ClassDecl} (declared : c ∈ i.classes) (among : e ∈ c.enums) :
      (i.qualify (some c) e.name, e.plan) ∈ i.emittedEnums :=
    List.mem_append_right _ (List.mem_flatMap.mpr ⟨c, declared, List.mem_map.mpr ⟨e, among, rfl⟩⟩)
  rcases enum?_cases member distinct meant with ⟨meant, same⟩ | ⟨c, rfl, declared, among, rfl⟩
  · rw [same]
    cases inScope : i.classEnum? (splitScope type).1 (splitScope type).2 with
    | some e' =>
      obtain rfl : e' = e := by simpa [enum?, inScope] using meant
      obtain ⟨c, declared, among, named⟩ := exists_class_of_classEnum? given clear none inScope
      exact named ▸ inner declared among
    | none =>
      have found : i.enums.find? (·.name = type) = some e := by simpa [enum?, inScope] using meant
      obtain rfl : e.name = type := by simpa using List.find?_some found
      simp only [qualify, inScope, Option.isSome_none, Bool.false_eq_true, if_false]
      exact List.mem_append_left _ (List.mem_map.mpr ⟨e, List.mem_of_find?_eq_some found, rfl⟩)
  · exact inner declared among

end

theorem populated_of_enum? (wellFormed : i.WellFormed) (meant : i.enum? cls? type = some e) : e.enumerators ≠ [] := by
  have inClass {scope name : Text} {e : EnumDecl} (found : i.classEnum? scope name = some e) : e.enumerators ≠ [] := by
    obtain ⟨c, among, found⟩ := List.exists_of_findSome?_eq_some found
    have declared := (List.mem_filter.mp among).1
    exact ((wellFormed.classes c declared).enumerators e (List.mem_of_find?_eq_some found)).populated
  simp only [enum?] at meant
  split at meant
  next found => exact Option.some.inj meant ▸ inClass found
  next =>
    split at meant
    next found =>
      obtain ⟨c, -, found⟩ := Option.bind_eq_some_iff.mp found
      exact Option.some.inj meant ▸ inClass found
    next => exact (wellFormed.enums e (List.mem_of_find?_eq_some meant)).populated

/-- A name that was made of a scope and an enum has an underscore, so that only the type of that name becomes `Any`. -/
theorem dotted_qualify_ne_any (other : type ≠ "Any") : (i.qualify cls? type).dotted ≠ "Any" := by
  intro isAny
  have same : i.qualify cls? type = "Any" := by
    rw [← isAny, Text.dotted_of_notMem (isAny ▸ by decide)]
  have joined (scope name : Text) : Text.concat [scope, "_", name] ≠ "Any" := by
    intro same
    have among : CodePoint.ofChar '_' ∈ Text.concat [scope, "_", name] := by
      simp [Text.concat, show ("_" : Text) = [CodePoint.ofChar '_'] from rfl]
    exact absurd (same ▸ among) (by decide)
  simp only [qualify] at same
  split at same
  next => exact joined _ _ same
  next =>
    split at same
    next =>
      split at same
      next => exact joined _ _ same
      next => exact other same
    next => exact other same

theorem hint_of_symbol (custom : ¬ Builtin.isBuiltin type) (notUsed : type ∉ i.usedEnums) :
    i.hint cls? type = if type.isSymbol then .ofSymbol (i.qualify cls? type).dotted else .any := by
  have noEncoding : Builtin.encoding? type = none := by simpa [Builtin.isBuiltin] using custom
  by_cases symbol : type.isSymbol <;> simp [hint, noEncoding, notUsed, symbol]

/-- What the functions make of one type. The name of an enum is the one that it is emitted under, unless a class without
a name has an enum that goes by the last part of a name with a scope. A type that is no symbol itself passes as anything,
even where its name becomes a symbol inside its class. -/
theorem names_agree (member : ∀ c ∈ cls?, c ∈ i.classes) (accepted : (Draft.ofInterface i).check = .ok ())
    (given : CodePoint.absent ∉ type) :
    (∀ p, i.enumPlan? cls? type = some p →
      (∀ nameless ∈ i.classes, nameless.name = [] → nameless.hasEnum (splitScope type).2 → (splitScope type).1 = []) →
      (i.qualify cls? type, p) ∈ i.emittedEnums) ∧
    (i.enumPlan? cls? type = none → i.qualify cls? type = type) ∧
    (¬ Builtin.isBuiltin type → type ∉ i.usedEnums → type ≠ "Any" → (i.qualify cls? type).isSymbol →
      (type.isSymbol → (i.hint cls? type).spelling = (i.qualify cls? type).dotted ∧
        i.checkType cls? type = (i.qualify cls? type).dotted) ∧
      (¬ type.isSymbol → (i.hint cls? type).spelling = "Any" ∧ i.checkType cls? type = "None") ∧
      (∀ p, i.enumPlan? cls? type = some p → ∃ first rest, p.values = first :: rest ∧
        (i.default cls? type []).1.text = (i.hint cls? type).spelling ++ "." ++ first.name.unreserved ∧
        (i.default cls? type []).2 = none) ∧
      ∀ c ∈ cls?, c.RefersTo type → i.qualify cls? type ∈ i.registrations.map (·.name)) := by
  have wellFormed := Draft.wellFormed_of_check accepted
  have distinct : (i.classes.map (·.name)).Nodup := wellFormed.names.of_append_left.of_append_left
  refine ⟨fun p planned clear => ?_, fun noPlan => ?_, fun custom notUsed other symbol => ⟨fun isSymbol => ?_,
    fun noSymbol => ?_, fun p planned => ?_, ?_⟩⟩
  · obtain ⟨e, meant, rfl⟩ := Option.map_eq_some_iff.mp planned
    exact mem_emittedEnums_of_enum? member distinct given clear meant
  · exact qualify_of_no_enum member (Option.map_eq_none_iff.mp noPlan)
  · have hint : i.hint cls? type = _ := hint_of_symbol custom notUsed
    rw [if_pos isSymbol] at hint
    have named : Hint.ofSymbol (i.qualify cls? type).dotted ≠ .any := fun isAny =>
      dotted_qualify_ne_any other ((Hint.spelling_ofSymbol _).symm.trans (congrArg Hint.spelling isAny))
    simp [checkType, hint, Hint.spelling_ofSymbol, custom, named]
  · have hint : i.hint cls? type = _ := hint_of_symbol custom notUsed
    rw [if_neg noSymbol] at hint
    simp [checkType, hint, Hint.spelling, Hint.checkWord]
  · obtain ⟨e, meant, rfl⟩ := Option.map_eq_some_iff.mp planned
    obtain ⟨first, rest, listed⟩ := List.exists_cons_of_ne_nil (populated_of_enum? wellFormed meant)
    have fallback : e.plan.fallback = first.name := by simp [EnumPlan.fallback, EnumDecl.plan, listed]
    have empty : i.default cls? type [] = (firstMember (i.hint cls? type) e.plan, none) := by
      simp only [default, planned]
      rfl
    exact ⟨first, rest, listed, by simp [empty, firstMember, DefaultExpr.text, fallback], by rw [empty]⟩
  · rintro c rfl refers
    refine List.mem_map.mpr (exists_registration (.inr (.inr ⟨mem_metatypes_iff.mpr (.inr ?_), symbol⟩)))
    exact ⟨c, member c rfl, type, ClassDecl.mem_mentions_iff.mpr refers, custom, rfl⟩

def hall : ClassDecl where
  name := "Hall"
  slots := [{ name := "dim", params := [⟨"Bulb::Mode", "mode"⟩] }]

def wing : Interface where
  classes := [{ name := "Bulb", enums := [⟨"Mode", [⟨"None", .number 0⟩, ⟨"Full", .number 1⟩], none, none⟩] }, hall]

theorem names_agree_wing :
    (∃ p, wing.enumPlan? (some hall) "Bulb::Mode" = some p ∧ (("Bulb_Mode" : Text), p) ∈ wing.emittedEnums) ∧
      (wing.hint (some hall) "Bulb::Mode").spelling = "Bulb_Mode" ∧
      wing.checkType (some hall) "Bulb::Mode" = "Bulb_Mode" ∧
      (wing.default (some hall) "Bulb::Mode" []).1.text = "Bulb_Mode.None_" ∧
      ("Bulb_Mode" : Text) ∈ wing.registrations.map (·.name) := by
  have qualified : wing.qualify (some hall) "Bulb::Mode" = "Bulb_Mode" := by decide
  have dotted : ("Bulb_Mode" : Text).dotted = "Bulb_Mode" := by decide
  have refers : hall.RefersTo "Bulb::Mode" := ClassDecl.mem_mentions_iff.mp (by decide)
  obtain ⟨emitted, -, symbols⟩ := names_agree (show ∀ c ∈ some hall, c ∈ wing.classes by simp [wing]) rfl
    (show CodePoint.absent ∉ ("Bulb::Mode" : Text) by decide)
  obtain ⟨named, -, empty, registered⟩ := symbols (by decide) (by decide) (by decide) (by decide)
  rw [qualified] at emitted named registered
  rw [dotted] at named
  obtain ⟨p, planned⟩ : ∃ p, wing.enumPlan? (some hall) "Bulb::Mode" = some p := ⟨_, rfl⟩
  obtain ⟨spelled, checked⟩ := named (by decide)
  obtain ⟨first, rest, listed, isText, -⟩ := empty p planned
  cases planned
  cases listed
  exact ⟨⟨_, rfl, emitted _ rfl (by decide)⟩, spelled, checked, by rw [isText, spelled]; decide,
    registered hall rfl refers⟩

end Interface
end Counterpart
