import Counterpart.Proofs.Dispatch

/-!
What a descriptor tells of a class. Every look-up is answered for every integer, whether or not a member has it as its
ordinal, and what is told of a member is what was declared, as far as the texts of the declaration are read back. A
look-up is reached where no enum of the class takes its name.
-/
namespace Counterpart

open Session

variable {c : ClassDecl} {function : Text} {α : Type}

/-! ## Members by ordinals -/

def MemberKind.word : MemberKind → Text
  | .property => "property"
  | .signal => "signal"
  | .method => "method"

def MetaObject.names (m : MetaObject) : MemberKind → List Text
  | .property => m.properties
  | .signal => m.signals
  | .method => m.methods

/-- The signatures of the members of a kind and the types of their parameters; properties have none. -/
def Ordinals.operations (o : Ordinals) : MemberKind → List (Text × List Text)
  | .property => []
  | .signal => o.signals.map fun s => (s.signature, s.paramTypes)
  | .method => o.methods.map fun m => (m.slot.signature, m.slot.paramTypes)

namespace Descriptor

/-- A question is answered for every integer: by what holds for the entry at that place, and in one way outside. -/
structure Tells {α : Type} (entries : List α) (ask : Int → Except Fault Value) (otherwise : Value)
    (expected : α → Value → Prop) : Prop where
  outside : ∀ k : Int, k < 0 ∨ entries.length ≤ k → ask k = .ok otherwise
  inside : ∀ (n : Nat) a, entries[n]? = some a → ∃ v, ask n = .ok v ∧ expected a v

theorem atIndex?_of_outside {table : List α} {k : Int} (outside : k < 0 ∨ table.length ≤ k) :
    atIndex? table k = none := by
  rw [atIndex?]
  split
  next => rfl
  next => exact List.getElem?_eq_none (by omega)

theorem atIndex?_nil (k : Int) : atIndex? ([] : List α) k = none :=
  atIndex?_of_outside (by simp only [List.length_nil]; omega)

/-- What is told from a table whose entries are related to others is told of those. -/
theorem Tells.of_forall₂ {β : Type} (answer : Option β → Value) {related : α → β → Prop} {entries : List α}
    {table : List β} (tabulated : List.Forall₂ related entries table) {ask : Int → Except Fault Value}
    (asks : ∀ k, ask k = .ok (answer (atIndex? table k))) {expected : α → Value → Prop}
    (meets : ∀ a b, related a b → expected a (answer (some b))) : Tells entries ask (answer none) expected where
  outside k outside := by
    rw [asks, atIndex?_of_outside (tabulated.length_eq ▸ outside)]
  inside n a there := by
    obtain ⟨inside, rfl⟩ := List.getElem?_eq_some_iff.mp there
    have alsoInside : n < table.length := tabulated.length_eq ▸ inside
    refine ⟨_, asks n, ?_⟩
    rw [atIndex?_natCast, List.getElem?_eq_getElem alsoInside]
    exact meets _ _ (tabulated.get inside alsoInside)

/-! ## Look-ups by name -/

def paramTable (d : Descriptor) (kind : MemberKind) : List (List Int) := (d.paramTable? (some kind)).getD []

def signatureTable (d : Descriptor) (kind : MemberKind) : List Text := (d.signatureTable? (some kind)).getD []

section

variable (d : Descriptor) (kind : MemberKind) (k j : Int)

/-- With as many arguments as it has parameters, a look-up answers. -/
private theorem lookUp_eq_ask {params : List Text} {args : List Value} (place : Nat)
    (known : Layer.lookUps[place]? = some (function, params)) (counted : args.length = params.length) :
    d.lookUp function args = d.ask function.toString args := by
  have distinct : (Keyed.keys Layer.lookUps).Nodup := by decide +kernel
  have found := Keyed.get?_of_mem distinct (List.mem_of_getElem? known)
  rw [lookUp, found, Option.getD_some, checkArguments, if_neg (by omega), if_neg (by omega)]
  rfl

private theorem lookUp_name : d.lookUp "name" [] = .ok (.text d.name) := (d.lookUp_eq_ask 0 rfl rfl).trans rfl

private theorem lookUp_typeName : d.lookUp "type_name" [] = .ok (.text d.typeName) :=
  (d.lookUp_eq_ask 1 rfl rfl).trans rfl

private theorem lookUp_count : d.lookUp "count" [.text kind.word] = .ok (.integer (d.count kind)) := by
  rw [d.lookUp_eq_ask 18 rfl rfl]
  cases kind <;> rfl

private theorem lookUp_sourceIndex :
    d.lookUp "source_index" [.text kind.word, .integer k] = .ok (.integer (d.sourceIndex kind k)) := by
  rw [d.lookUp_eq_ask 19 rfl rfl]
  cases kind <;> rfl

private theorem lookUp_paramCount :
    d.lookUp "parameter_count" [.text kind.word, .integer k] = .ok (.integer (paramCountAt (d.paramTable kind) k)) := by
  rw [d.lookUp_eq_ask 20 rfl rfl]
  cases kind with
  | property =>
    have noTable : d.paramTable .property = [] := rfl
    rw [noTable, paramCountAt, atIndex?_nil]
    rfl
  | signal | method => rfl

private theorem lookUp_paramType :
    d.lookUp "parameter_type" [.text kind.word, .integer k, .integer j] =
      .ok (.integer (paramTypeAt (d.paramTable kind) k j)) := by
  have asks : d.ask (Text.toString "parameter_type") [.text kind.word, .integer k, .integer j] =
      d.askParamType (some kind) (.integer k) (.integer j) := by
    cases kind <;> rfl
  rw [d.lookUp_eq_ask 21 rfl rfl, asks, askParamType, paramTable]
  cases known : d.paramTable? (some kind) with
  | none => rw [Option.getD_none, paramTypeAt, atIndex?_nil]
  | some table =>
    have position : (Value.integer k).toPosition "list" table.length = .ok k := rfl
    simp only [position, ok_bind, paramType, known, Option.getD_some, paramTypeAt]
    cases atIndex? table k <;> rfl

private theorem lookUp_signature :
    d.lookUp "signature" [.text kind.word, .integer k] = .ok (.text (textAt (d.signatureTable kind) k)) := by
  rw [d.lookUp_eq_ask 22 rfl rfl]
  cases kind with
  | property =>
    have noTable : d.signatureTable .property = [] := rfl
    rw [noTable, textAt, atIndex?_nil]
    rfl
  | signal | method => rfl

private theorem lookUp_methodType : d.lookUp "method_type" [.integer k] = .ok (.integer (d.methodType k)) :=
  (d.lookUp_eq_ask 16 rfl rfl).trans rfl

private theorem lookUp_returnType : d.lookUp "method_return_type" [.integer k] = .ok (.text (d.returnType k)) :=
  (d.lookUp_eq_ask 17 rfl rfl).trans rfl

private theorem lookUp_propertyIndex :
    d.lookUp "property_index_from_signal" [.integer k] = .ok (.integer (d.propertyIndex k)) :=
  (d.lookUp_eq_ask 12 rfl rfl).trans rfl

private theorem lookUp_propertyPosition :
    d.lookUp "property_raw_index_from_signal" [.integer k] = .ok (.integer (d.propertyPosition k)) :=
  (d.lookUp_eq_ask 13 rfl rfl).trans rfl

private theorem lookUp_count_of_kind : d.lookUp (kind.word ++ "_count") [] = .ok (.integer (d.count kind)) := by
  cases kind with
  | property => exact (d.lookUp_eq_ask 2 rfl rfl).trans rfl
  | signal => exact (d.lookUp_eq_ask 3 rfl rfl).trans rfl
  | method => exact (d.lookUp_eq_ask 4 rfl rfl).trans rfl

private theorem lookUp_sourceIndex_of_kind :
    d.lookUp ("source_" ++ kind.word ++ "_index") [.integer k] = .ok (.integer (d.sourceIndex kind k)) := by
  cases kind with
  | property => exact (d.lookUp_eq_ask 5 rfl rfl).trans rfl
  | signal => exact (d.lookUp_eq_ask 6 rfl rfl).trans rfl
  | method => exact (d.lookUp_eq_ask 7 rfl rfl).trans rfl

private theorem lookUp_paramCount_of_kind (noProperty : kind ≠ .property) :
    d.lookUp (kind.word ++ "_parameter_count") [.integer k] = .ok (.integer (paramCountAt (d.paramTable kind) k)) := by
  cases kind with
  | property => exact absurd rfl noProperty
  | signal => exact (d.lookUp_eq_ask 8 rfl rfl).trans rfl
  | method => exact (d.lookUp_eq_ask 10 rfl rfl).trans rfl

private theorem lookUp_paramType_of_kind (noProperty : kind ≠ .property) :
    d.lookUp (kind.word ++ "_parameter_type") [.integer k, .integer j] =
      d.lookUp "parameter_type" [.text kind.word, .integer k, .integer j] := by
  rw [d.lookUp_eq_ask 21 rfl rfl]
  cases kind with
  | property => exact absurd rfl noProperty
  | signal => exact (d.lookUp_eq_ask 9 rfl rfl).trans rfl
  | method => exact (d.lookUp_eq_ask 11 rfl rfl).trans rfl

private theorem lookUp_signature_of_kind (noProperty : kind ≠ .property) :
    d.lookUp (kind.word ++ "_signature") [.integer k] = .ok (.text (textAt (d.signatureTable kind) k)) := by
  cases kind with
  | property => exact absurd rfl noProperty
  | signal => exact (d.lookUp_eq_ask 14 rfl rfl).trans rfl
  | method => exact (d.lookUp_eq_ask 15 rfl rfl).trans rfl

end

/-! ## Tables of bound descriptors -/

section

variable {i : Interface} {registry : Registry} {type : Lineage} {d : Descriptor}

/-- The member of a type that an index leads to has the name of the numbered member. -/
private theorem Tabulates.indices (tables : Tabulates i registry c type d) (kind : MemberKind) :
    List.Forall₂ (fun member (index : Int) => ∃ n : Nat, index = n ∧ (type.metaObject.names kind)[n]? = some member.1)
      (c.ordinals.members kind) (d.table kind) := by
  cases kind with
  | property => exact List.forall₂_map_left_iff.mpr ((forall₂_of_mapM_ok tables.properties).imp fun _ _ => place_of_require)
  | signal => exact List.forall₂_map_left_iff.mpr ((forall₂_of_mapM_ok tables.signals).imp fun _ _ => place_of_require)
  | method => exact List.forall₂_map_left_iff.mpr ((forall₂_of_mapM_ok tables.methods).imp fun _ _ => place_of_require)

private theorem Tabulates.params (tables : Tabulates i registry c type d) (kind : MemberKind) :
    List.Forall₂ (fun operation ids => typeIds i registry c operation.2 = .ok ids) (c.ordinals.operations kind)
      (d.paramTable kind) := by
  cases kind with
  | property => exact .nil
  | signal => exact List.forall₂_map_left_iff.mpr (forall₂_of_mapM_ok tables.signalTypes)
  | method => exact List.forall₂_map_left_iff.mpr (forall₂_of_mapM_ok tables.methodTypes)

private theorem Tabulates.signatures (tables : Tabulates i registry c type d) (kind : MemberKind) :
    List.Forall₂ (fun operation read => operation.1.reread = .ok read) (c.ordinals.operations kind)
      (d.signatureTable kind) := by
  cases kind with
  | property => exact .nil
  | signal => exact List.forall₂_map_left_iff.mpr (forall₂_of_mapM_ok tables.signalSignatures)
  | method => exact List.forall₂_map_left_iff.mpr (forall₂_of_mapM_ok tables.methodSignatures)

private theorem getElem?_changes (c : ClassDecl) (n : Nat) :
    (c.ordinals.changes.filterMap (·.property?))[n]? = c.ordinals.signals[n]?.bind (·.property?) := by
  have kept : c.ordinals.changes.filterMap (·.property?) = (c.ordinals.signals.map (·.property?)).filterMap id := by
    rw [Ordinals.changes, List.filterMap_filter, List.filterMap_map]
    congr 1
    funext s
    cases property : s.property? <;> simp [NumberedSignal.isChange, property]
  rw [kept, map_signals c fun head => head.2.2, property?_signals]
  simp [ClassDecl.signalHeads, List.filterMap_append, List.filterMap_map]

private theorem Tabulates.changed_eq (tables : Tabulates i registry c type d) (k : Int) :
    c.ordinals.propertyForSignal k =
      match atIndex? d.changed k with
      | some ordinal => ordinal
      | none => -1 := by
  rw [tables.changed, Ordinals.propertyForSignal, atIndex?]
  split
  next => rfl
  next =>
    rw [getElem?_changes]
    cases c.ordinals.signals[k.toNat]? with
    | none => rfl
    | some s => cases s.property? <;> rfl

end

/-! ## Answers -/

/-- The look-ups tell of a class and of the type that a descriptor of it is bound to. A text that a look-up tells is the
one that is read where the text of the declaration is written between double quotes as it is. -/
structure Describes (i : Interface) (registry : Registry) (c : ClassDecl) (type : Lineage) (d : Descriptor) : Prop where
  name : d.lookUp "name" [] = .ok (.text c.name)
  typeName : d.lookUp "type_name" [] = .ok (.text c.name)
  count : ∀ kind : MemberKind, d.lookUp "count" [.text kind.word] = .ok (.integer (c.ordinals.members kind).length)
  index : ∀ kind : MemberKind, Tells (c.ordinals.members kind)
    (fun k => d.lookUp "source_index" [.text kind.word, .integer k]) (.integer (-1))
    fun member v => ∃ n : Nat, v = .integer n ∧ (type.metaObject.names kind)[n]? = some member.1
  paramCount : ∀ kind : MemberKind, Tells (c.ordinals.operations kind)
    (fun k => d.lookUp "parameter_count" [.text kind.word, .integer k]) (.integer (-1))
    fun operation v => v = .integer operation.2.length
  paramType : ∀ kind : MemberKind, ∀ (n : Nat) operation, (c.ordinals.operations kind)[n]? = some operation →
    Tells operation.2 (fun j => d.lookUp "parameter_type" [.text kind.word, .integer n, .integer j]) (.integer (-1))
      fun type v => ∃ read, (i.qualify (some c) type).reread = .ok read ∧ v = .integer (registry.typeId read)
  noParamType : ∀ (kind : MemberKind) (k j : Int), k < 0 ∨ (c.ordinals.operations kind).length ≤ k →
    d.lookUp "parameter_type" [.text kind.word, .integer k, .integer j] = .ok (.integer (-1))
  signature : ∀ kind : MemberKind, Tells (c.ordinals.operations kind)
    (fun k => d.lookUp "signature" [.text kind.word, .integer k]) (.text [])
    fun operation v => ∃ read, operation.1.reread = .ok read ∧ v = .text read
  methodType : Tells c.ordinals.methods (fun k => d.lookUp "method_type" [.integer k]) (.integer (-1))
    fun _ v => v = .integer slotMark
  returnType : Tells c.ordinals.methods (fun k => d.lookUp "method_return_type" [.integer k]) (.text [])
    fun method v => ∃ read, method.slot.returnType.reread = .ok read ∧ v = .text read
  propertyPosition : ∀ k : Int, d.lookUp "property_raw_index_from_signal" [.integer k] =
    .ok (.integer (if 0 ≤ c.ordinals.propertyForSignal k then c.ordinals.propertyForSignal k + 1 else -1))
  propertyIndex : ∀ k : Int, d.lookUp "property_index_from_signal" [.integer k] =
    d.lookUp "source_property_index" [.integer (c.ordinals.propertyForSignal k)]
  countOfKind : ∀ kind : MemberKind, d.lookUp (kind.word ++ "_count") [] = d.lookUp "count" [.text kind.word]
  indexOfKind : ∀ (kind : MemberKind) (k : Int), d.lookUp ("source_" ++ kind.word ++ "_index") [.integer k] =
    d.lookUp "source_index" [.text kind.word, .integer k]
  paramCountOfKind : ∀ kind : MemberKind, kind ≠ .property → ∀ k : Int,
    d.lookUp (kind.word ++ "_parameter_count") [.integer k] =
      d.lookUp "parameter_count" [.text kind.word, .integer k]
  paramTypeOfKind : ∀ kind : MemberKind, kind ≠ .property → ∀ k j : Int,
    d.lookUp (kind.word ++ "_parameter_type") [.integer k, .integer j] =
      d.lookUp "parameter_type" [.text kind.word, .integer k, .integer j]
  signatureOfKind : ∀ kind : MemberKind, kind ≠ .property → ∀ k : Int,
    d.lookUp (kind.word ++ "_signature") [.integer k] = d.lookUp "signature" [.text kind.word, .integer k]

section

variable {i : Interface} {registry : Registry} {type : Lineage} {d : Descriptor}
variable (tables : Tabulates i registry c type d)

include tables

private theorem Tabulates.tells_paramType (kind : MemberKind) {n : Nat} {operation : Text × List Text}
    (there : (c.ordinals.operations kind)[n]? = some operation) :
    Tells operation.2 (fun j => d.lookUp "parameter_type" [.text kind.word, .integer n, .integer j]) (.integer (-1))
      fun type v => ∃ read, (i.qualify (some c) type).reread = .ok read ∧ v = .integer (registry.typeId read) := by
  have related := tables.params kind
  obtain ⟨inside, rfl⟩ := List.getElem?_eq_some_iff.mp there
  have alsoInside : n < (d.paramTable kind).length := related.length_eq ▸ inside
  have ids := forall₂_of_mapM_ok (related.get inside alsoInside)
  refine Tells.of_forall₂ (fun id? => .integer (id?.getD (-1))) ids (fun j => ?_) fun type id read => ?_
  · rw [lookUp_paramType, paramTypeAt, atIndex?_natCast, List.getElem?_eq_getElem alsoInside]
    rfl
  · obtain ⟨text, isRead, rfl⟩ := of_map_ok read
    exact ⟨text, isRead, rfl⟩

private theorem Tabulates.lookUp_position (k : Int) :
    d.lookUp "property_raw_index_from_signal" [.integer k] =
      .ok (.integer (if 0 ≤ c.ordinals.propertyForSignal k then c.ordinals.propertyForSignal k + 1 else -1)) := by
  rw [lookUp_propertyPosition, Descriptor.propertyPosition, tables.changed_eq]
  cases atIndex? d.changed k with
  | none => rfl
  | some ordinal => rw [if_pos (Int.natCast_nonneg ordinal)]

private theorem Tabulates.lookUp_index (k : Int) :
    d.lookUp "property_index_from_signal" [.integer k] =
      d.lookUp "source_property_index" [.integer (c.ordinals.propertyForSignal k)] := by
  have same : ("source_property_index" : Text) = "source_" ++ MemberKind.property.word ++ "_index" := rfl
  rw [lookUp_propertyIndex, same, lookUp_sourceIndex_of_kind, Descriptor.propertyIndex, tables.changed_eq]
  cases atIndex? d.changed k <;> rfl

theorem Tabulates.describes : Describes i registry c type d where
  name := by rw [lookUp_name, tables.name]
  typeName := by rw [lookUp_typeName, tables.typeName]
  count kind := by rw [lookUp_count, Descriptor.count, (tables.indices kind).length_eq]
  index kind := by
    refine Tells.of_forall₂ (fun index? => .integer (index?.getD (-1))) (tables.indices kind)
      (fun k => d.lookUp_sourceIndex kind k) fun member index leads => ?_
    obtain ⟨n, rfl, found⟩ := leads
    exact ⟨n, rfl, found⟩
  paramCount kind := by
    refine Tells.of_forall₂ (fun ids? => .integer (ids?.elim (-1) fun ids => ids.length)) (tables.params kind)
      (fun k => ?_) fun operation ids read => ?_
    · rw [lookUp_paramCount, paramCountAt]
      cases atIndex? (d.paramTable kind) k <;> rfl
    · rw [(forall₂_of_mapM_ok read).length_eq]
      rfl
  paramType kind n operation there := tables.tells_paramType kind there
  noParamType kind k j outside := by
    rw [lookUp_paramType, paramTypeAt, atIndex?_of_outside ((tables.params kind).length_eq ▸ outside)]
  signature kind := Tells.of_forall₂ (fun read? => .text (read?.getD [])) (tables.signatures kind)
    (fun k => d.lookUp_signature kind k) fun operation read isRead => ⟨read, isRead, rfl⟩
  methodType := Tells.of_forall₂ (fun index? => .integer (if index?.isSome then slotMark else -1))
    (forall₂_of_mapM_ok tables.methods) d.lookUp_methodType fun _ _ _ => rfl
  returnType := Tells.of_forall₂ (fun read? => .text (read?.getD [])) (forall₂_of_mapM_ok tables.returnTypes)
    d.lookUp_returnType fun method read isRead => ⟨read, isRead, rfl⟩
  propertyPosition := tables.lookUp_position
  propertyIndex := tables.lookUp_index
  countOfKind kind := by rw [lookUp_count_of_kind, lookUp_count]
  indexOfKind kind k := by rw [lookUp_sourceIndex_of_kind, lookUp_sourceIndex]
  paramCountOfKind kind noProperty k := by rw [lookUp_paramCount_of_kind d kind k noProperty, lookUp_paramCount]
  paramTypeOfKind kind noProperty k j := lookUp_paramType_of_kind d kind k j noProperty
  signatureOfKind kind noProperty k := by rw [lookUp_signature_of_kind d kind k noProperty, lookUp_signature]

end

/-! ## Calls -/

/-- The functions of descriptors: those that look something up, and two that these call. -/
def functionNames : List Text := Keyed.keys Layer.lookUps ++ (["_lookup", "_table"] : List Text)

theorem lookup?_lookUp (i : Interface) (apart : ∀ e ∈ c.enums, e.name ∉ functionNames)
    (known : function ∈ Keyed.keys Layer.lookUps) :
    (i.descriptorLineage c).lookup? function = some (Layer.descriptorBase.name, .method .lookUp) := by
  have absent : Keyed.get? function (i.descriptorLayer c).members = none := by
    rw [Interface.descriptorLayer, Keyed.get?_ofList, Keyed.get?_eq_none_iff]
    intro among
    obtain ⟨_, bound, rfl⟩ := List.mem_map.mp among
    obtain ⟨e, declared, rfl⟩ := List.mem_map.mp (List.mem_reverse.mp bound)
    exact apart e declared (List.mem_append_left _ known)
  have found : Keyed.get? function Layer.descriptorBase.members = some (.method .lookUp) :=
    Keyed.get?_map_const known
  simp only [Lineage.lookup?, Interface.descriptorLineage, Lineage.descriptorBase, List.findSome?_cons, absent, found,
    Option.map_none, Option.map_some]

/-- An enum of a class takes the place of a function that has its name. -/
private theorem member?_enum (i : Interface) {e : EnumDecl} (declared : e ∈ c.enums) :
    ∃ target, (i.descriptorLineage c).member? e.name = some (.alias target) := by
  have bound : e.name ∈ Keyed.keys (i.aliasBindings c).reverse := by
    simpa [Keyed.keys, Interface.aliasBindings] using ⟨e, declared, rfl⟩
  obtain ⟨member, found⟩ := Option.ne_none_iff_exists'.mp fun absent => Keyed.get?_eq_none_iff.mp absent bound
  obtain ⟨other, -, same⟩ := List.mem_map.mp (List.mem_reverse.mp (Keyed.mem_of_get? found))
  obtain ⟨-, rfl⟩ := Prod.mk.inj same
  have first : Keyed.get? e.name (i.descriptorLayer c).members = some (.alias (i.qualify (some c) other.name)) := by
    rw [Interface.descriptorLayer, Keyed.get?_ofList, found]
  refine ⟨i.qualify (some c) other.name, ?_⟩
  simp only [Lineage.member?, Lineage.lookup?, Interface.descriptorLineage, List.findSome?_cons, first, Option.map_some]

/-- Calling a look-up of a descriptor gives its answer and changes nothing. -/
theorem outcome_lookUp {i : Interface} {c : ClassDecl} {d : Descriptor} (apart : ∀ e ∈ c.enums, e.name ∉ functionNames)
    {function : Text} (known : function ∈ Keyed.keys Layer.lookUps) (react : List Value → Text → Act Unit) {w : World}
    {id : Text} {o : Instance} (args : List Value) (there : Keyed.get? id w.objects = some o)
    (lineage : o.lineage = i.descriptorLineage c) (state : o.state = .descriptor d) :
    (callMember react id function (pure args)).outcome w = ((d.lookUp function args).map .value, w) := by
  have found := lookup?_lookUp i apart known
  rw [← lineage] at found
  simp only [callMember, Act.outcome_bind, Act.outcome_object w there, Act.outcome_found w found, Act.outcome_pure,
    runMethod, state, Act.outcome_of]
  cases d.lookUp function args <;> rfl

/-- A class of the module is bound to a type, and no class of the module takes the place of what that is done with. -/
structure IsBound (m : Module) (registry : Registry) (c : ClassDecl) (type : Lineage) (d : Descriptor) : Prop where
  unhidden : m.Unhidden
  bound : bind m.interface registry c type = .ok d

/-- Whatever type a descriptor is bound to, every look-up is answered for all integers by what was declared, as it is
read back. Calling a look-up gives its answer and changes nothing, unless an enum of the class has the name of a
function of descriptors, whose place it takes. -/
theorem lookUps_answered {m : Module} {registry : Registry} {c : ClassDecl} {type : Lineage} {d : Descriptor}
    (made : IsBound m registry c type d) :
    Describes m.interface registry c type d ∧
    ((∀ e ∈ c.enums, e.name ∉ functionNames) → ∀ function ∈ Keyed.keys Layer.lookUps,
      ∀ (react : List Value → Text → Act Unit) (w : World) (id : Text) (o : Instance) (args : List Value),
        Keyed.get? id w.objects = some o → o.lineage = m.interface.descriptorLineage c → o.state = .descriptor d →
        (callMember react id function (pure args)).outcome w = ((d.lookUp function args).map .value, w)) ∧
    (∀ e ∈ c.enums, ∃ target, (m.interface.descriptorLineage c).member? e.name = some (.alias target)) := by
  refine ⟨(tabulates_of_bind made.bound).describes, ?_, fun e declared => member?_enum m.interface declared⟩
  intro apart function known react w id o args there lineage state
  exact outcome_lookUp apart known react args there lineage state

theorem lookUps_answered_meter :
    ∃ d, bind meterUnit {} meter meterType = .ok d ∧
      (∀ k : Int, 2 ≤ k → d.lookUp "signature" [.text "method", .integer k] = .ok (.text [])) ∧
      d.lookUp "parameter_count" [.text "method", .integer 1] = .ok (.integer 1) ∧
      d.lookUp "property_raw_index_from_signal" [.integer 0] = .ok (.integer 1) := by
  have conforms : (bind meterUnit {} meter meterType).isOk := by decide +kernel
  obtain ⟨d, bound⟩ := exists_of_isOk conforms
  have described := (lookUps_answered (m := { interface := meterUnit }) ⟨by decide +kernel, bound⟩).1
  refine ⟨d, bound, fun k outside => (described.signature .method).outside k (.inr outside), ?_, ?_⟩
  · obtain ⟨v, told, rfl⟩ := (described.paramCount .method).inside 1 _ rfl
    exact told
  · exact described.propertyPosition 0

end Descriptor

end Counterpart
