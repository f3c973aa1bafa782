import Counterpart.Emit.PythonModule
import Counterpart.Proofs.Constructors
import Counterpart.Proofs.IntegerLiterals
import Counterpart.Proofs.References
import Counterpart.Session.Run

/-!
Replicas that can be made. A default that cannot be translated gives way to that of its type, which has a value, but one
that can be translated may have none, and then making a replica fails. Main statement: where a module can be rendered and
loaded, a replica of a class can be made exactly if each of its defaults has a value.
-/
namespace Counterpart

variable {e : DefaultExpr} {plan : EnumPlan} {symbol : Text} {ε α : Type}

theorem isOk_iff_exists {x : Except ε α} : x.isOk ↔ ∃ a, x = .ok a := by
  refine ⟨exists_of_isOk, ?_⟩
  rintro ⟨_, rfl⟩
  rfl

theorem not_isOk_error {e : ε} : ¬ (Except.error e : Except ε α).isOk := by simp [Except.isOk, Except.toBool]

/-! ## What types mean -/

namespace Module

/-- What a type means where it is seen from: a builtin one or an enum that is declared elsewhere, an enum of the unit, or
a record of the unit. -/
inductive Means (m : Module) (cls? : Option ClassDecl) (type : Text) : Prop
  | plain (noEnum : m.interface.enum? cls? type = none) (noRecord : m.interface.record? type = none)
    (hint : ∀ symbol, m.interface.hint cls? type ≠ .named symbol)
  | enum {symbol : Text} {e : EnumDecl} (meant : m.interface.enum? cls? type = some e)
    (hint : m.interface.hint cls? type = .named symbol) (defined : m.definition? symbol = some (.enum e.plan))
    (populated : e.plan.values ≠ [])
  | record {r : RecordDecl} (noEnum : m.interface.enum? cls? type = none) (meant : m.interface.record? type = some r)
    (hint : m.interface.hint cls? type = .named type) (defined : m.definition? type = some (.record r))

/-- The names of the enums of classes are neither builtin nor those of enums that are declared elsewhere. -/
def InnerApart (m : Module) : Prop :=
  ∀ c ∈ m.interface.classes, ∀ e ∈ c.enums, e.name ∉ Builtin.names ∧ e.name ∉ m.interface.usedEnums

instance (m : Module) : Decidable m.InnerApart :=
  inferInstanceAs (Decidable (∀ c ∈ m.interface.classes, ∀ e ∈ c.enums, _ ∧ _))

variable {m : Module} {cls? : Option ClassDecl} {type : Text}

theorem Means.of_enum (means : m.Means cls? type) {e : EnumDecl} (meant : m.interface.enum? cls? type = some e) :
    ∃ symbol, m.interface.hint cls? type = .named symbol ∧ m.definition? symbol = some (.enum e.plan) := by
  cases means with
  | plain noEnum => simp [meant] at noEnum
  | enum found hint defined =>
    cases meant.symm.trans found
    exact ⟨_, hint, defined⟩
  | record noEnum => simp [meant] at noEnum

variable (clear : m.Unambiguous) (named : m.interface.Named)

include clear named

/-- What is emitted under a name of its own is hinted at by that name. -/
theorem hint_of_emitted (custom : Builtin.encoding? type = none) (notUsed : type ∉ m.interface.usedEnums)
    (symbol : type.isSymbol) (emitted : m.interface.qualify cls? type ∈ m.interface.emittedNames) :
    m.interface.hint cls? type = .named (m.interface.qualify cls? type) := by
  have isName := Interface.isIdentifier_of_emitted named emitted
  have among : m.interface.qualify cls? type ∈ m.definitions.map (·.1) := by
    simp only [definitions, List.map_append, List.map_map, Function.comp_def]
    exact List.mem_append_left _ emitted
  have free : m.interface.qualify cls? type ∉ (["bool", "int", "float", "str", "bytes", "Any"] : List Text) := by
    intro listed
    have isFree := (isSound_iff.mp clear.sound).1 _ among
    have words : ∀ name ∈ (["bool", "int", "float", "str", "bytes", "Any"] : List Text), ¬ name.isFree := by decide
    exact words _ listed isFree
  simp [Interface.hint, custom, notUsed, symbol, isName.dotted_eq, Hint.ofSymbol_of_isIdentifier isName free]

/-- A known type means something. -/
theorem means_of_known (wellFormed : m.interface.WellFormed) (inner : m.InnerApart)
    (member : ∀ c ∈ cls?, c ∈ m.interface.classes) (known : m.interface.isKnownType cls? type) : m.Means cls? type := by
  have distinct : (m.interface.classes.map (·.name)).Nodup := wellFormed.names.of_append_left.of_append_left
  cases meant : m.interface.enum? cls? type with
  | some e =>
    have apart : Builtin.encoding? type = none ∧ type ∉ m.interface.usedEnums ∧ type.isSymbol ∧
        (m.interface.qualify cls? type, e.plan) ∈ m.interface.emittedEnums := by
      rcases Interface.enum?_cases member distinct meant with ⟨everywhere, same⟩ | ⟨c, rfl, declared, among, rfl⟩
      · have declared : m.interface.Declares type := .inl (by simp [everywhere])
        refine ⟨clear.encoding?_of_declares declared, fun used => clear.used type used declared,
          named.isSymbol_of_declares declared, ?_⟩
        rw [same, ← named.classOf_eq]
        exact Interface.mem_emittedEnums everywhere
      · have isEnum : c.hasEnum e.name := List.any_eq_true.mpr ⟨e, among, by simp⟩
        refine ⟨Builtin.encoding?_of_notMem (inner c declared e among).1, (inner c declared e among).2,
          (named.isIdentifier_enum declared isEnum).isSymbol, ?_⟩
        exact List.mem_append_right _ (List.mem_flatMap.mpr ⟨c, declared, List.mem_map.mpr ⟨e, among, rfl⟩⟩)
    obtain ⟨custom, notUsed, symbol, emitted⟩ := apart
    refine .enum meant (hint_of_emitted clear named custom notUsed symbol ?_) ?_ (Interface.populated_of_enum? wellFormed meant)
    · exact List.mem_append_left _ (List.mem_map.mpr ⟨_, emitted, rfl⟩)
    · apply Scope.find?_of_mem clear.classes
      exact List.mem_append_left _ (List.mem_append_left _ (List.mem_map.mpr ⟨_, emitted, rfl⟩))
  | none =>
    cases isRecord : m.interface.record? type with
    | some r =>
      have declared : m.interface.Declares type := .inr (by simp [isRecord])
      have same := Interface.qualify_of_no_enum member meant
      have emitted : m.interface.qualify cls? type ∈ m.interface.emittedNames := by
        have sameName : r.name = type := by simpa using List.find?_some isRecord
        rw [same]
        exact List.mem_append_right _ (List.mem_map.mpr ⟨r, List.mem_of_find?_eq_some isRecord, sameName⟩)
      refine .record meant isRecord ?_ (clear.definition?_of_record isRecord)
      rw [hint_of_emitted clear named (clear.encoding?_of_declares declared) (fun used => clear.used type used declared)
        (named.isSymbol_of_declares declared) emitted, same]
    | none =>
      refine .plain meant isRecord fun symbol hint => ?_
      simp only [Interface.isKnownType, Builtin.isBuiltin, meant, isRecord, Option.isSome_none, Bool.or_false,
        Bool.or_eq_true] at known
      unfold Interface.hint at hint
      split at hint
      next encoding _ => exact Hint.ofEncoding_ne_named encoding symbol hint
      next noEncoding =>
        rw [noEncoding] at known
        rw [if_pos (known.resolve_left (by simp))] at hint
        cases hint

omit clear named in
theorem isOk_record {r : RecordDecl}
    (each : ∀ a ∈ r.attributes, (m.blank (m.interface.hint none a.type)).isOk) : (m.record symbol r []).isOk := by
  obtain ⟨rest, defaults⟩ := exists_forall₂_ok_iff.mpr each
  exact isOk_iff_exists.mpr ⟨_, record_ok_iff.mpr ⟨Nat.zero_le _, rest, defaults, rfl⟩⟩

/-- Where the attributes of all records have known types, a known type has a value when none is given. -/
theorem isOk_blank_of_known (wellFormed : m.interface.WellFormed) (inner : m.InnerApart)
    (attributes : ∀ r ∈ m.interface.records, ∀ a ∈ r.attributes, m.interface.isKnownType none a.type)
    (known : m.interface.isKnownType none type) : (m.blank (m.interface.hint none type)).isOk := by
  -- Records that do not hold themselves lie below one another, so the induction is on the depth below a type.
  have below (depth : Nat) : ∀ type, m.interface.Within depth type → m.interface.isKnownType none type →
      (m.blank (m.interface.hint none type)).isOk := by
    induction depth with
    | zero => exact fun _ within => absurd within Interface.not_within_zero
    | succ depth ih =>
      intro type within known
      cases means_of_known clear named wellFormed inner (by simp) known with
      | plain noEnum noRecord hint =>
        cases same : m.interface.hint none type with
        | named symbol => exact absurd same (hint symbol)
        | _ => rfl
      | @enum symbol e meant hint defined populated =>
        obtain ⟨x, rest, values⟩ := List.exists_cons_of_ne_nil populated
        have first : (e.plan.first? symbol).isSome := by simp [EnumPlan.first?, EnumPlan.members, values]
        obtain ⟨v, first⟩ := Option.isSome_iff_exists.mp first
        rw [hint]
        exact isOk_iff_exists.mpr ⟨v, emptyAt_named.mpr (.inr ⟨_, defined, first⟩)⟩
      | @record r noEnum meant hint defined =>
        have declared := List.mem_of_find?_eq_some meant
        obtain ⟨v, made⟩ := exists_of_isOk (isOk_record fun a among =>
          ih a.type (within.attribute (clear.grounded type) meant among) (attributes r declared a among))
        rw [hint]
        exact isOk_iff_exists.mpr ⟨v, blank_ok_iff.mpr ⟨_, emptyAt_named.mpr (.inl ⟨r, defined, made⟩)⟩⟩
  exact below _ type (Interface.within_of_lt (Nat.lt_succ_self _)) known

end Module

/-! ## Defaults -/

namespace DefaultExpr

variable {m : Module} {i : Interface} {cls? : Option ClassDecl} {type given : Text}

theorem isOk_piece_iff : (piece m e).isOk ↔ (value m e).isOk := by
  rw [value_eq_piece]
  cases piece m e <;> exact Iff.rfl

theorem classOf_enum (defined : m.definition? symbol = some (.enum plan)) :
    classOf m (.named symbol) = .ok (.enum symbol plan) := by
  simp [classOf, Module.expected, Module.classNamed, defined]

theorem isOk_value_firstMember (defined : m.definition? symbol = some (.enum plan))
    (populated : plan.values ≠ []) : (value m (Interface.firstMember (.named symbol) plan)).isOk := by
  obtain ⟨x, rest, values⟩ := List.exists_cons_of_ne_nil populated
  have named : plan.members.find? (·.1 = plan.fallback.unreserved) = some (x.name.unreserved, x.value.toInt) := by
    simp [EnumPlan.members, EnumPlan.fallback, values]
  have numbered : plan.members.find? (·.2 = x.value.toInt) = some (x.name.unreserved, x.value.toInt) := by
    simp [EnumPlan.members, values]
  rw [Interface.firstMember, value, classOf_enum defined, ok_bind, memberOf, EnumPlan.named?, named]
  simp only [Option.bind_some, EnumPlan.withNumber?, numbered, Option.map_some]
  rfl

/-- The expression neither makes a record nor names an enumerator. -/
def isConstant : DefaultExpr → Bool
  | .construct .. | .member .. => false
  | _ => true

theorem isOk_value_constant (constant : e.isConstant) (closed : e.isClosed) : (value m e).isOk := by
  cases e with
  | integer digits =>
    rw [isClosed] at closed
    rw [value, if_pos closed]
    rfl
  | real digits =>
    rw [isClosed] at closed
    rw [value, if_pos closed]
    rfl
  | quoted source =>
    rw [isClosed] at closed
    rw [value]
    cases read : Piece.ofSource source with
    | ok p => rfl
    | error fault => simp [read] at closed
  | construct callee args => cases constant
  | member callee enumerator => cases constant
  | _ => rfl

theorem isConstant_empty {h : Hint} (plain : ∀ symbol, h ≠ .named symbol) : (empty h).isConstant := by
  cases h with
  | named symbol => exact absurd rfl (plain symbol)
  | _ => rfl

theorem isClosed_empty (h : Hint) : (empty h).isClosed := by
  cases h <;> rfl

theorem hint_ne_named (builtin : Builtin.isBuiltin type) (symbol : Text) : i.hint cls? type ≠ .named symbol := by
  obtain ⟨encoding, isEncoding⟩ := Option.isSome_iff_exists.mp builtin
  rw [Interface.hint, isEncoding]
  exact Hint.ofEncoding_ne_named encoding symbol

/-- What a default stands for in a form at a builtin type is a constant. -/
def Form.IsConstant : Form → Prop
  | .plain (some e) => e.isConstant
  | .plain none | .wrapped _ => True
  | .fields _ => False

theorem isConstant_form (builtin : Builtin.isBuiltin type) : (form i cls? type given).IsConstant := by
  unfold form
  dsimp only
  split
  next word found =>
    have among := Keyed.mem_of_get? found
    simp only [words, List.mem_cons, Prod.mk.injEq, List.not_mem_nil, or_false] at among
    rcases among with ⟨-, rfl⟩ | ⟨-, rfl⟩ | ⟨-, rfl⟩ | ⟨-, rfl⟩ <;> rfl
  next =>
    split
    next =>
      unfold ofInteger?
      split
      · cases Numeral.octal? _ <;> trivial
      · trivial
    next =>
      split
      next => trivial
      next =>
        split
        next => split <;> trivial
        next =>
          split
          · trivial
          next =>
            split
            · unfold callForm
              dsimp only
              split
              · exact isConstant_empty (hint_ne_named builtin)
              · trivial
            · trivial

/-- A literal or a call at a builtin type stands for a constant. -/
theorem isConstant_literal {fuel : Nat} (builtin : Builtin.isBuiltin type)
    (found : literal? i fuel cls? type given = some e) : e.isConstant := by
  induction fuel generalizing cls? given with
  | zero => cases found
  | succ fuel ih =>
    have constant : (form i cls? type given).IsConstant := isConstant_form builtin
    rw [literal?] at found
    cases isForm : form i cls? type given with
    | plain value? =>
      rw [isForm] at constant found
      cases found
      exact constant
    | wrapped inner =>
      rw [isForm] at found
      exact ih found
    | fields pairs =>
      rw [isForm] at constant
      exact constant.elim

theorem default_nil_of_no_enum (noEnum : i.enum? cls? type = none) : (i.default cls? type []).1 =
    if i.usedEnums.contains type then .integer "0" else empty (i.hint cls? type) := by
  have trimmed : Text.strip [] = [] := rfl
  simp only [Interface.default, Interface.enumPlan?, noEnum, Option.map_none, trimmed, List.isEmpty_nil, if_true,
    apply_ite Prod.fst]

/-- The default of a known type has a value where the attributes of all records have known types. -/
theorem isOk_value_default_nil (clear : m.Unambiguous) (named : m.interface.Named) (wellFormed : m.interface.WellFormed)
    (apart : m.InnerApart) (means : m.Means cls? type)
    (attributes : ∀ r ∈ m.interface.records, ∀ a ∈ r.attributes, m.interface.isKnownType none a.type) :
    (value m (m.interface.default cls? type []).1).isOk := by
  cases means with
  | plain noEnum noRecord hint =>
    rw [default_nil_of_no_enum noEnum]
    split
    · rfl
    · exact isOk_value_constant (isConstant_empty hint) (isClosed_empty _)
  | @enum symbol e meant hint defined populated =>
    simp only [Interface.default, Interface.enumPlan?, meant, Option.map_some, hint]
    exact isOk_value_firstMember defined populated
  | @record r noEnum meant hint defined =>
    rw [default_nil_of_no_enum noEnum, hint]
    split
    · rfl
    · have declared := List.mem_of_find?_eq_some meant
      obtain ⟨v, made⟩ := exists_of_isOk (Module.isOk_record fun a among =>
        Module.isOk_blank_of_known clear named wellFormed apart attributes (attributes r declared a among))
      exact isOk_iff_exists.mpr ⟨v, (value_construct defined).mpr ⟨[], rfl, made⟩⟩

/-- A default of a builtin type, or of an enum that is declared elsewhere, is a constant. -/
theorem isConstant_default (noEnum : i.enum? cls? type = none)
    (plain : Builtin.isBuiltin type ∨ i.usedEnums.contains type) : (i.default cls? type given).1.isConstant := by
  simp only [Interface.default, Interface.enumPlan?, noEnum, Option.map_none]
  by_cases used : i.usedEnums.contains type
  · rw [if_pos used]
    split
    · rfl
    · cases found : i.literal? none "int" given.strip with
      | none => rfl
      | some e => exact isConstant_literal (by decide) found
  · rw [if_neg used]
    have builtin := plain.resolve_right used
    split
    · exact isConstant_empty (hint_ne_named builtin)
    · cases found : i.literal? cls? type given.strip with
      | none => exact isConstant_empty (hint_ne_named builtin)
      | some e => exact isConstant_literal builtin found

/-- A default that is blank or has been given up is that of its type. -/
theorem default_of_givenUp (givenUp : given.strip = [] ∨ (i.default cls? type given).2.isSome) :
    (i.default cls? type given).1 = (i.default cls? type []).1 := by
  have trimmed : Text.strip [] = [] := rfl
  simp only [Interface.default, trimmed, List.isEmpty_nil, if_true] at givenUp ⊢
  by_cases blank : given.strip = []
  · simp [blank]
  have noWarning := givenUp.resolve_left blank
  rw [← List.isEmpty_iff] at blank
  rw [if_neg blank] at noWarning ⊢
  split at noWarning
  · cases noWarning
  next =>
    cases i.enumPlan? cls? type with
    | some plan => rfl
    | none => by_cases used : i.usedEnums.contains type <;> simp only [used] <;> rfl

/-- An integer literal as the default of an enum has a value exactly if an enumerator has the number. -/
theorem isOk_value_number {e : EnumDecl} (meant : m.interface.enum? cls? type = some e)
    (hint : m.interface.hint cls? type = .named symbol) (defined : m.definition? symbol = some (.enum e.plan))
    (l : IntegerLiteral) (small : l.digits.magnitude < 2 ^ 64)
    (noName : ∀ x ∈ e.enumerators, x.name ≠ Text.afterLast "::" l.text) :
    (value m (m.interface.default cls? type l.text).1).isOk ↔ ∃ x ∈ e.enumerators, x.value.toInt = l.value := by
  have read : m.interface.literal? none "int" l.text = some (.integer l.translation) := by
    have integers (cls? : Option ClassDecl) : m.interface.hint cls? "int" = .integer := rfl
    exact (l.literal?_casts m.interface none (by decide) integers small [] callLimit).trans (if_pos (by decide))
  have unnamed : e.plan.values.any (·.name = Text.afterLast "::" l.text) = false := by
    simpa [EnumDecl.plan] using noName
  have expr : (m.interface.default cls? type l.text).1 = .construct (.named symbol) [.integer l.translation] := by
    have given : l.text.isEmpty = false := by
      obtain ⟨c, rest, starts, -⟩ := l.head?_text
      rw [starts]
      rfl
    simp [Interface.default, Interface.enumPlan?, meant, hint, l.strip_text, given, unnamed, read]
  have evaluated : DefaultExpr.given m [.integer l.translation] = .ok [.integer l.value] := by
    rw [DefaultExpr.given, l.value_translation small m]
    · rfl
    · simp
  have made : m.make (.enum symbol e.plan) [.integer l.value] = e.plan.pick symbol (.integer l.value) := rfl
  have found : (e.plan.matching? symbol (.integer l.value)).isSome ↔ ∃ x ∈ e.enumerators, x.value.toInt = l.value := by
    simp [Module.matching?_integer, EnumPlan.withNumber?, EnumPlan.members, EnumDecl.plan]
  rw [expr, value, classOf_enum defined, ok_bind, evaluated, ok_bind, made, EnumPlan.pick, ← found]
  cases e.plan.matching? symbol (.integer l.value) <;> exact Iff.rfl

end DefaultExpr

/-! ## Lists of defaults -/

namespace DefaultExpr

variable {m : Module}

theorem runsOn_of_isClosed (closed : e.isClosed) {p : Piece} (isPiece : piece m e = .ok p) : p.runsOn = false := by
  cases e with
  | quoted source =>
    rw [piece] at isPiece
    rw [isClosed, isPiece] at closed
    have isShut : p.isOpen = false := by simpa using closed
    rw [Piece.runsOn, isShut, Bool.false_and]
  | _ =>
    simp only [piece] at isPiece
    obtain ⟨_, -, rfl⟩ := of_map_ok isPiece
    rfl

/-- A list of closed defaults has items exactly if each of them has a value. -/
theorem isOk_items_iff {es : List DefaultExpr} (closed : ∀ e ∈ es, e.isClosed) :
    (items m es).isOk ↔ ∀ e ∈ es, (value m e).isOk := by
  induction es with
  | nil => exact iff_of_true rfl (by simp)
  | cons e rest ih =>
    obtain ⟨first, later⟩ := List.forall_mem_cons.mp closed
    rw [List.forall_mem_cons, ← isOk_piece_iff, ← ih later, items]
    cases isPiece : piece m e with
    | error fault => exact iff_of_false not_isOk_error fun holds => not_isOk_error holds.1
    | ok p =>
      rw [ok_bind]
      cases items m rest with
      | error fault => exact iff_of_false not_isOk_error fun holds => not_isOk_error holds.2
      | ok values =>
        have stays := runsOn_of_isClosed first isPiece
        rw [ok_bind, Piece.followedBy]
        · exact iff_of_true rfl ⟨rfl, rfl⟩
        · simp [stays]

end DefaultExpr

/-! ## Replicas -/

namespace Session

open DefaultExpr

/-- A replica can be made exactly if the types can be registered and the list of the defaults has items. -/
theorem isOk_replica_iff {w : World} {c : ClassDecl} (clear : w.module.Unambiguous)
    (sides : w.module.mode.hasReplica) (declared : c ∈ w.module.interface.classes) (inner : Step → Act Answer)
    (id name : Text) (node? : Option Text) :
    ((takeObjectStep inner (.replica id c.name node? name)).outcome w).1.isOk ↔
      (w.module.register w.registry).1.isOk ∧ (w.module.startValues c).isOk := by
  have defined : w.module.definition? (c.name ++ "Replica") = some (.replica c) := by
    refine Scope.find?_of_mem clear.classes (List.mem_append_right _ (List.mem_flatMap.mpr ⟨c, declared, ?_⟩))
    exact List.mem_append_left _ (by simp [sides, ClassDecl.replicaName])
  have found : (Act.lineage (c.name ++ "Replica")).outcome w =
      (.ok (.replica c, w.module.interface.replicaLineage c), w) := by
    simp [Act.lineage, Act.module, Module.lineage, defined, Module.lineageOf?]
  simp only [takeObjectStep, makeReplica, Act.registerTypes, Act.module, Act.outcome_bind, found, Act.outcome_get,
    Act.outcome_set, Act.outcome_of, Act.outcome_pure]
  cases w.module.register w.registry with
  | mk result registry =>
    cases result with
    | error e => exact iff_of_false not_isOk_error fun holds => not_isOk_error holds.1
    | ok _ =>
      dsimp only
      cases w.module.startValues c with
      | error e => exact iff_of_false not_isOk_error fun holds => not_isOk_error holds.2
      | ok values => exact iff_of_true rfl ⟨rfl, rfl⟩

/-- The module is rendered and can be loaded, and its types mean something: names are unambiguous, types are known, and
no default keeps the module from being rendered. -/
structure Rendered (m : Module) : Prop where
  clear : m.Unambiguous
  apart : m.InnerApart
  known : ∀ c ∈ m.interface.classes, ∀ p ∈ c.properties, m.interface.isKnownType (some c) p.type
  attributes : ∀ r ∈ m.interface.records, ∀ a ∈ r.attributes, m.interface.isKnownType none a.type
  defaults : ∀ c ∈ m.interface.classes, ∀ p ∈ c.properties, m.interface.obstacle? (some c) p.type p.default = none

/-- The mode of a torch is that of no enumerator. -/
def torchLight : Module where
  interface :=
    { enums := [{ name := "Mode", enumerators := [⟨"Off", .number 0⟩, ⟨"On", .number 1⟩] }]
      records := [{ name := "Tint", attributes := [⟨"int", "hue"⟩, ⟨"Mode", "mode"⟩] }]
      classes := [
        { name := "Lamp", properties := [{ type := "Mode", name := "mode", default := "1" },
            { type := "Tint", name := "tint", default := "Tint(" },
            { type := "int", name := "level", default := "full()" }] },
        { name := "Torch", properties := [{ type := "Mode", name := "mode", default := "7" }] }] }

private theorem torchLight_rendered : Rendered torchLight where
  clear := {
    sound := by decide +kernel
    classes := by decide +kernel
    builtin := by decide +kernel
    used := by decide +kernel
    records := by decide +kernel
    grounded := Interface.grounded_of_rank List.length (by decide +kernel) }
  apart := by decide +kernel
  known := by decide +kernel
  attributes := by decide +kernel
  defaults := by decide +kernel

end Session

end Counterpart
