import Counterpart.Proofs.Conformance
import Counterpart.Proofs.Lookups
import Counterpart.Proofs.Numbering

/-!
The places of members in a type. The members of a type are listed from its oldest layer on, so deriving from it moves
none of them. Main statement: whatever derives from the simple source of a class has the members of the class at the
places where the source has them, which follow from the ordinals, and deriving only adds places.
-/
namespace Counterpart

variable {l : Lineage} {start : List Text}

/-! ## Names gathered -/

theorem addName_eq_or (names : List Text) (name : Text) :
    addName names name = names ∧ name ∈ names ∨ addName names name = names ++ [name] ∧ name ∉ names := by
  by_cases there : name ∈ names <;> simp [addName, there]

theorem prefix_foldl_addName (names start : List Text) : start <+: names.foldl addName start := by
  induction names generalizing start with
  | nil => exact List.prefix_rfl
  | cons name rest ih =>
    rcases addName_eq_or start name with ⟨same, -⟩ | ⟨added, -⟩
    · rw [List.foldl_cons, same]
      exact ih start
    · rw [List.foldl_cons, added]
      exact (List.prefix_append start [name]).trans (ih _)

theorem nodup_foldl_addName (distinct : start.Nodup) (names : List Text) : (names.foldl addName start).Nodup := by
  induction names generalizing start with
  | nil => exact distinct
  | cons name rest ih =>
    rcases addName_eq_or start name with ⟨same, -⟩ | ⟨added, new⟩
    · rw [List.foldl_cons, same]
      exact ih distinct
    · rw [List.foldl_cons, added]
      exact ih (List.nodup_append'.mpr ⟨distinct, List.nodup_singleton name, List.disjoint_singleton.mpr new⟩)

theorem foldl_addName_of_nodup {names : List Text} (distinct : (start ++ names).Nodup) :
    names.foldl addName start = start ++ names := by
  induction names generalizing start with
  | nil => simp
  | cons name rest ih =>
    have new : name ∉ start := fun among => List.disjoint_of_nodup_append distinct among List.mem_cons_self
    have added : addName start name = start ++ [name] := by simp [addName, new]
    rw [List.foldl_cons, added, ih (by simpa using distinct)]
    simp

namespace Lineage

theorem nodup_gather (l : Lineage) (names : Layer → List Text) : (l.gather names).Nodup :=
  nodup_foldl_addName List.nodup_nil _

theorem prefix_gather {base : Lineage} (derived : base <:+ l) (names : Layer → List Text) :
    base.gather names <+: l.gather names := by
  obtain ⟨layers, rfl⟩ := derived
  rw [gather, gather, List.reverse_append, List.flatMap_append, List.foldl_append]
  exact prefix_foldl_addName _ _

end Lineage

def Layer.names (layer : Layer) : MemberKind → List Text
  | .property => layer.properties
  | .signal => layer.signals
  | .method => layer.methods

theorem Lineage.names_metaObject (l : Lineage) (kind : MemberKind) :
    l.metaObject.names kind = l.gather (·.names kind) := by
  cases kind <;> rfl

/-! ## Sources -/

namespace ClassDecl

/-- The names that a source has before those of the members of a kind: getters and setters stand before slots. -/
def namesBefore (c : ClassDecl) : MemberKind → List Text
  | .property => []
  | .signal => []
  | .method => c.properties.map (·.name.unreserved) ++ c.setterNames

theorem WellFormed.isPublic_sourceFunctions {c : ClassDecl} (wellFormed : c.WellFormed) :
    ∀ name ∈ c.sourceFunctions, Layer.isPublic name := by
  have declared {name : Text} (isMember : name ∈ c.memberNames) : Layer.isPublic name.unreserved := by
    have reserved : ∀ word ∈ reservedWords, Layer.isPublic (word ++ ("_" : Text)) := by decide
    by_cases isReserved : name ∈ reservedWords
    · simpa [Text.unreserved, isReserved] using reserved name isReserved
    · simpa [Text.unreserved, isReserved] using wellFormed.isPublic isMember
  simp only [sourceFunctions, List.forall_mem_append, List.forall_mem_map]
  refine ⟨⟨fun p isProperty => declared ?_, ?_⟩, fun s isSlot => declared ?_⟩
  · exact List.mem_append_left _ (List.mem_append_left _ (List.mem_map_of_mem isProperty))
  · intro name made
    obtain ⟨p, -, rfl⟩ := List.mem_map.mp made
    rfl
  · exact List.mem_append_right _ (List.mem_map_of_mem isSlot)

end ClassDecl

namespace Interface

variable {i : Interface} {c : ClassDecl}

theorem members_sourceLayer (distinct : i.MembersDistinct c) : (i.sourceLayer c).members =
    i.aliasBindings c ++ i.signalBindings c ++ c.sourceFunctions.map fun name => (name, .method .declared) := by
  rw [sourceLayer, Keyed.ofList_of_nodup distinct.source, sourceBindings_eq]

theorem signals_sourceLayer (distinct : i.MembersDistinct c) :
    (i.sourceLayer c).signals = c.changeNames ++ c.signalNames := by
  rw [← map_name_signals]
  simp [Layer.signals, members_sourceLayer distinct, aliasBindings, signalBindings, List.filter_map, Function.comp_def,
    Member.isSignal]

theorem methods_sourceLayer (distinct : i.MembersDistinct c) (free : ∀ name ∈ c.sourceFunctions, Layer.isPublic name) :
    (i.sourceLayer c).methods = c.sourceFunctions := by
  have kept : c.sourceFunctions.filter Layer.isPublic = c.sourceFunctions := List.filter_eq_self.mpr free
  simpa [Layer.methods, members_sourceLayer distinct, aliasBindings, signalBindings, List.filter_map, Function.comp_def,
    Member.isMethod] using kept

theorem names_sourceLayer (distinct : i.MembersDistinct c) (wellFormed : c.WellFormed)
    (slots : ∀ s ∈ c.slots, s.name ∉ reservedWords) (kind : MemberKind) :
    (i.sourceLayer c).names kind = c.namesBefore kind ++ c.namesOf kind := by
  cases kind with
  | property => rfl
  | signal => exact signals_sourceLayer distinct
  | method =>
    have kept : c.slots.map (·.name.unreserved) = c.slots.map (·.name) :=
      List.map_congr_left fun s isSlot => by simp [Text.unreserved, slots s isSlot]
    rw [Layer.names, methods_sourceLayer distinct wellFormed.isPublic_sourceFunctions, ClassDecl.sourceFunctions, kept]
    rfl

theorem nodup_sourceNames (distinct : i.MembersDistinct c) :
    (c.enumNames ++ (c.changeNames ++ c.signalNames) ++ c.sourceFunctions).Nodup := by
  have source := distinct.source
  rw [sourceBindings_eq] at source
  simpa [Keyed.keys, aliasBindings, signalBindings, ← map_name_signals, ClassDecl.enumNames, Function.comp_def] using source

theorem nodup_names_sourceLayer (distinct : i.MembersDistinct c) (wellFormed : c.WellFormed) (kind : MemberKind) :
    ((i.sourceLayer c).names kind).Nodup := by
  have names := nodup_sourceNames distinct
  cases kind with
  | property => exact wellFormed.members.of_append_left.of_append_left
  | signal =>
    rw [Layer.names, signals_sourceLayer distinct]
    exact names.of_append_left.of_append_right
  | method =>
    rw [Layer.names, methods_sourceLayer distinct wellFormed.isPublic_sourceFunctions]
    exact names.of_append_right

theorem names_sourceLineage (distinct : i.MembersDistinct c) (wellFormed : c.WellFormed)
    (slots : ∀ s ∈ c.slots, s.name ∉ reservedWords) (kind : MemberKind) :
    (i.sourceLineage c).metaObject.names kind = c.namesBefore kind ++ c.namesOf kind := by
  have bases : Layer.sourceBase.names kind = [] ∧ Layer.abstractBase.names kind = [] ∧ Layer.root.names kind = [] := by
    cases kind <;> exact ⟨rfl, rfl, rfl⟩
  have layered : (i.sourceLineage c).reverse.flatMap (·.names kind) = (i.sourceLayer c).names kind := by
    simp [sourceLineage, Lineage.sourceBase, bases]
  rw [Lineage.names_metaObject, Lineage.gather, layered, ← names_sourceLayer distinct wellFormed slots kind]
  exact foldl_addName_of_nodup (nodup_names_sourceLayer distinct wellFormed kind)

/-- What derives from a source has the members at the places where the source has them. -/
theorem prefix_names_derived (distinct : i.MembersDistinct c) (wellFormed : c.WellFormed)
    (slots : ∀ s ∈ c.slots, s.name ∉ reservedWords) (derived : i.sourceLineage c <:+ l) (kind : MemberKind) :
    c.namesBefore kind ++ c.namesOf kind <+: l.metaObject.names kind := by
  rw [← names_sourceLineage distinct wellFormed slots, Lineage.names_metaObject, Lineage.names_metaObject]
  exact Lineage.prefix_gather derived _

/-- Where names do not collide, a type that derives from a simple source lacks nothing, as long as its setters can be
called. -/
theorem meets_of_derived (distinct : i.MembersDistinct c) (wellFormed : c.WellFormed)
    (slots : ∀ s ∈ c.slots, s.name ∉ reservedWords) (derived : i.simpleSourceLineage c <:+ l)
    (setters : ∀ name ∈ c.setterNames, ∀ member, l.member? name = some member → member.isCallable) :
    ∀ r ∈ c.required, l.Meets r := by
  have apart := List.disjoint_of_nodup_append (nodup_sourceNames distinct)
  refine (meets_iff_foundIn wellFormed derived.sublist).mpr ⟨fun s isSlot isReserved => ?_, ?_, setters⟩
  · exact absurd isReserved (slots s isSlot)
  · intro name isSignal isFunction
    exact absurd isFunction (apart (List.mem_append_right _ isSignal))

end Interface

/-! ## Descriptors -/

namespace Descriptor

variable {i : Interface} {registry : Registry} {c : ClassDecl} {d : Descriptor}

/-- Where the members of a kind stand in a row, an ordinal counts from where the row starts. -/
theorem lookUp_of_row (tables : Tabulates i registry c l d) {kind : MemberKind} {before : List Text}
    (row : before ++ c.namesOf kind <+: l.metaObject.names kind) {k : Nat} (inside : k < (c.namesOf kind).length) :
    d.lookUp ("source_" ++ kind.word ++ "_index") [.integer k] = .ok (.integer (before.length + k : Nat)) := by
  have numbered : (c.ordinals.members kind)[k]? = some ((c.namesOf kind)[k], k) := by
    simp [ClassDecl.members_ordinals, inside]
  obtain ⟨v, told, n, rfl, there⟩ := (tables.describes.index kind).inside k _ numbered
  have place : (l.metaObject.names kind)[before.length + k]? = some (c.namesOf kind)[k] := by
    obtain ⟨rest, same⟩ := row
    rw [← same, List.append_assoc, List.getElem?_append_right (by omega), Nat.add_sub_cancel_left,
      List.getElem?_append_left inside, List.getElem?_eq_getElem inside]
  have distinct : (l.metaObject.names kind).Nodup := l.names_metaObject kind ▸ l.nodup_gather _
  obtain ⟨early, -⟩ := List.getElem?_eq_some_iff.mp there
  have same : n = before.length + k := (List.getElem?_inj early distinct).mp (there.trans place.symm)
  rw [tables.describes.indexOfKind, told, same]

end Descriptor

/-! ## Main statement -/

namespace Session

/-- The descriptor under a name leads each ordinal of a class to its place: properties and signals to their ordinals, and
slots to the places after getters and setters. -/
structure Addresses (w : World) (id : Text) (c : ClassDecl) : Prop where
  properties : ∀ (react : List Value → Text → Act Unit) (k : Nat), k < c.properties.length →
    (callMember react id "source_property_index" (pure [.integer k])).outcome w = (.ok (.value (.integer k)), w)
  signals : ∀ (react : List Value → Text → Act Unit) (k : Nat), k < (c.changeNames ++ c.signalNames).length →
    (callMember react id "source_signal_index" (pure [.integer k])).outcome w = (.ok (.value (.integer k)), w)
  methods : ∀ (react : List Value → Text → Act Unit) (k : Nat), k < c.slots.length →
    (callMember react id "source_method_index" (pure [.integer k])).outcome w =
      (.ok (.value (.integer (c.properties.length + (c.properties.filter (·.writable)).length + k : Nat))), w)

variable {w : World} {c : ClassDecl} (id : Text) {type : BoundType}

/-- A descriptor addresses the members of a class where their names are a row of its table, in their order. -/
theorem addresses_of_rows {i : Interface} {registry : Registry} {o : Instance} {d : Descriptor}
    (apart : ∀ e ∈ c.enums, e.name ∉ Descriptor.functionNames) (there : Keyed.get? id w.objects = some o)
    (lineage : o.lineage = i.descriptorLineage c) (state : o.state = .descriptor d)
    (tables : Descriptor.Tabulates i registry c l d)
    (rows : ∀ kind, c.namesBefore kind ++ c.namesOf kind <+: l.metaObject.names kind) : Addresses w id c := by
  have calls (kind : MemberKind) (react : List Value → Text → Act Unit) {k : Nat} (inside : k < (c.namesOf kind).length) :
      (callMember react id ("source_" ++ kind.word ++ "_index") (pure [.integer k])).outcome w =
        (.ok (.value (.integer ((c.namesBefore kind).length + k : Nat))), w) := by
    have known : ("source_" ++ kind.word ++ "_index" : Text) ∈ Keyed.keys Layer.lookUps := by cases kind <;> decide
    rw [Descriptor.outcome_lookUp apart known react _ there lineage state, Descriptor.lookUp_of_row tables (rows kind) inside]
    rfl
  constructor
  · intro react k inside
    have called := calls .property react (k := k) (by simpa [ClassDecl.namesOf] using inside)
    rwa [ClassDecl.namesBefore, List.length_nil, Nat.zero_add] at called
  · intro react k inside
    have called := calls .signal react (k := k) inside
    rwa [ClassDecl.namesBefore, List.length_nil, Nat.zero_add] at called
  · intro react k inside
    have called := calls .method react (k := k) (by simpa [ClassDecl.namesOf] using inside)
    rwa [ClassDecl.namesBefore, List.length_append, List.length_map, ClassDecl.setterNames, List.length_map] at called

/-- Whatever derives from the simple source of a class of a sound module is bound with the places that the ordinals
give, and deriving leaves the places of members as they are. -/
theorem addresses_of_derived (accepted : (Draft.ofInterface w.module.interface).check = .ok ())
    (sources : w.module.mode.hasSource) (declared : c ∈ w.module.interface.classes) (sound : w.module.isSound)
    (apart : ∀ e ∈ c.enums, e.name ∉ Descriptor.functionNames) (distinct : w.module.interface.MembersDistinct c)
    (slots : ∀ s ∈ c.slots, s.name ∉ reservedWords) (given : (boundLineage c.name type).outcome w = (.ok l, w))
    (derived : w.module.interface.simpleSourceLineage c <:+ l)
    (setters : ∀ name ∈ c.setterNames, ∀ member, l.member? name = some member → member.isCallable)
    (registered : (w.module.register w.registry).1.isOk) :
    (∃ after, (bind id c.name type).outcome w = (.ok (), after) ∧ Addresses after id c) ∧
    ∀ (layer : Layer) (base : Lineage) (kind : MemberKind),
      base.metaObject.names kind <+: (Lineage.metaObject (layer :: base)).names kind := by
  have wellFormed := (Draft.wellFormed_of_check accepted).classes c declared
  have met := Interface.meets_of_derived distinct wellFormed slots derived setters
  have source : w.module.interface.sourceLineage c <:+ l := (List.suffix_cons _ _).trans derived
  have rows := Interface.prefix_names_derived distinct wellFormed slots source
  obtain ⟨registry, outcome⟩ := outcome_bind_of_registered id accepted sources declared given registered
  obtain ⟨d, bound⟩ := exists_of_isOk ((Descriptor.isOk_bind_iff (Interface.reads_of_isSound sound declared)).mpr met)
  have tables := Descriptor.tabulates_of_bind bound
  rw [bound] at outcome
  constructor
  · refine ⟨_, outcome, ?_⟩
    exact addresses_of_rows id apart (Keyed.get?_set_self id _ w.objects) rfl rfl tables rows
  · intro layer base kind
    rw [Lineage.names_metaObject, Lineage.names_metaObject]
    exact Lineage.prefix_gather (List.suffix_cons layer base) _

def valveUnit : Module where
  interface := { classes := [valve] }

def gate : Sketch where
  name := "Gate"
  bases := ["ValveSimpleSource"]
  members := [("lift", .method .plain), ("close", .method .plain)]

/-- A source that derives from another one, adds a property and has a signal and a setter of its own. -/
def sluice : Sketch where
  name := "Sluice"
  bases := ["Gate"]
  properties? := some ["depth"]
  members := [("raised", .signal []), ("setOpen", .shared)]

theorem addresses_of_derived_sluice : valveUnit.isSound ∧
    ∃ after, (bind "d" "Valve" (.sketched [gate, sluice])).outcome { module := valveUnit } = (.ok (), after) ∧
      ∀ react, (callMember react "d" "source_method_index" (pure [.integer 0])).outcome after =
        (.ok (.value (.integer 5)), after) := by
  have accepted : (Draft.ofInterface valveUnit.interface).check = .ok () := rfl
  have sound : valveUnit.isSound := by decide +kernel
  have registered : (valveUnit.register {}).1.isOk := by decide +kernel
  have distinct : valveUnit.interface.MembersDistinct valve := ⟨by decide, by decide⟩
  have given := (rfl : (boundLineage valve.name (.sketched [gate, sluice])).outcome { module := valveUnit } = (_, _))
  obtain ⟨⟨after, bound, addresses⟩, -⟩ := addresses_of_derived "d" accepted rfl (by decide) sound (by decide)
    distinct (by decide) given ⟨[_, _], rfl⟩ (fun name isSetter member found => by
      rw [List.mem_singleton.mp isSetter] at found
      cases found
      rfl) registered
  exact ⟨sound, after, bound, fun react => addresses.methods react 0 (by decide)⟩

end Session
end Counterpart
