import Counterpart.Draft.Check
import Counterpart.Proofs.Members
import Mathlib.Data.List.Perm.Basic

/-!
Which members of an accepted class can overwrite one another. Declarations are accepted if the names that they declare
differ, but the sides of a class bind names that are made from those: setters, change signals, short names of enums,
and names that keep clear of reserved words. Main statement: the names bound are different from one another exactly if
no name that is made clashes with another, for acceptance rules out nothing but clashes of declared names.
-/
namespace Counterpart

variable {c : ClassDecl} {names : List Text} {α : Type}

/-! ## Accepted declarations -/

theorem of_forM_ok {ε : Type} {f : α → Except ε PUnit} {xs : List α} (done : xs.forM f = .ok ()) :
    ∀ x ∈ xs, f x = .ok () := by
  induction xs with
  | nil => simp
  | cons first rest ih =>
    have done : (f first >>= fun _ => rest.forM f) = .ok () := done
    obtain ⟨_, head, tail⟩ := of_bind_ok done
    exact List.forall_mem_cons.mpr ⟨head, ih tail⟩

theorem nodup_of_repeated_eq_nil [BEq α] [LawfulBEq α] {names : List α} (none : repeated names = []) :
    names.Nodup := by
  rw [repeated, List.filter_eq_nil_iff] at none
  refine List.nodup_iff_count.mpr fun name => ?_
  by_cases among : name ∈ names
  · have few := none name (List.mem_eraseDups.mpr among)
    simp only [decide_eq_true_eq] at few
    omega
  · rw [List.count_eq_zero.mpr among]
    omega

namespace ClassDecl

def changeNames (c : ClassDecl) : List Text := (c.properties.filter (·.notifies)).map (·.changeName)

def setterNames (c : ClassDecl) : List Text := (c.properties.filter (·.writable)).map (·.setterName)

/-- The declared names of the members that become functions: the properties and the slots. -/
def functionNames (c : ClassDecl) : List Text := c.properties.map (·.name) ++ c.slots.map (·.name)

def signalNames (c : ClassDecl) : List Text := c.signals.map (·.name)

def enumNames (c : ClassDecl) : List Text := c.enums.map (·.name)

structure DeclaredApart (c : ClassDecl) : Prop where
  members : (c.functionNames ++ c.signalNames).Nodup
  changes : ∀ name ∈ c.changeNames, name ∉ c.signalNames
  enums : c.enumNames.Nodup

end ClassDecl

namespace Draft

variable {names : List (Option Text)}

private theorem nodup_of_distinct {reject : Text → Rejection}
    (done : distinct names reject = .ok ()) : names.Nodup := by
  unfold distinct at done
  split at done
  next none => exact nodup_of_repeated_eq_nil none
  next => cases done

private theorem present_of_required {items : Items α} {xs : List α} (done : required items = .ok xs) :
    items.present = xs := by
  cases items with
  | none => cases done
  | some items =>
    have related := forall₂_of_mapM_ok done
    simp only [Items.present, Option.getD_some]
    clear done
    induction related with
    | nil => rfl
    | @cons item x rest xs first _ ih =>
      cases item with
      | none => cases first
      | some a =>
        cases first
        simpa using ih

private theorem nodup_given (distinct : names.Nodup)
    (clear : none ∉ names ∨ some Text.absent ∉ names) : (names.map given).Nodup := by
  refine distinct.map_on fun x isName y isOther same => ?_
  cases x <;> cases y <;> simp_all [given]

private theorem notMem_of_checkChange {cls : Text} {signals : List Operation} {p : Property} (named : p.name ≠ none)
    (signalsNamed : ∀ s ∈ signals, s.name ≠ none) (done : p.checkChange cls signals = .ok ())
    (notifies : p.fill.notifies) : p.fill.changeName ∉ signals.map (given ·.name) := by
  intro among
  obtain ⟨s, declared, same⟩ := List.mem_map.mp among
  obtain ⟨name, isName⟩ := Option.ne_none_iff_exists'.mp named
  obtain ⟨signal, isSignal⟩ := Option.ne_none_iff_exists'.mp (signalsNamed s declared)
  have asked : p.notifies = true := by
    cases access : p.access <;>
      simp_all [Property.notifies, Property.fill, Counterpart.Property.notifies]
  have found : signals.any (·.name = some p.changeName) = true := by
    refine List.any_eq_true.mpr ⟨s, declared, ?_⟩
    simp_all [given, Property.changeName, shown, Counterpart.Property.changeName, Property.fill]
  rw [Property.checkChange, asked, found] at done
  cases done

def ClassDecl.memberNames (c : ClassDecl) : List (Option Text) :=
  c.properties.present.map (·.name) ++ c.signals.present.map (·.name) ++ c.slots.present.map (·.name)

structure ClassDecl.Accepted (c : ClassDecl) : Prop where
  members : c.memberNames.Nodup
  named : none ∉ c.memberNames
  changes : ∀ p ∈ c.properties.present, p.checkChange (shown c.name) c.signals.present = .ok ()
  enums : (c.enums.present.map (·.name)).Nodup
  enumerators : ∀ e ∈ c.enums.present, e.check (shown c.name ++ "::") = .ok ()

private theorem accepted_of_check (accepted : c.check = .ok ()) : c.Accepted := by
  obtain ⟨properties, hasProperties, accepted⟩ := of_bind_ok accepted
  obtain ⟨signals, hasSignals, accepted⟩ := of_bind_ok accepted
  obtain ⟨slots, hasSlots, accepted⟩ := of_bind_ok accepted
  obtain ⟨enums, hasEnums, accepted⟩ := of_bind_ok accepted
  obtain ⟨_, -, accepted⟩ := of_bind_ok accepted
  obtain ⟨_, -, accepted⟩ := of_bind_ok accepted
  obtain ⟨_, -, accepted⟩ := of_bind_ok accepted
  obtain ⟨_, enumsDistinct, accepted⟩ := of_bind_ok accepted
  obtain ⟨_, changesFree, accepted⟩ := of_bind_ok accepted
  obtain ⟨_, membersDistinct, accepted⟩ := of_bind_ok accepted
  obtain ⟨_, membersNamed, accepted⟩ := of_bind_ok accepted
  obtain ⟨_, -, accepted⟩ := of_bind_ok accepted
  obtain ⟨_, -, enumsAccepted⟩ := of_bind_ok accepted
  cases present_of_required hasProperties
  cases present_of_required hasSignals
  cases present_of_required hasSlots
  cases present_of_required hasEnums
  exact {
    members := nodup_of_distinct membersDistinct
    named := fun among => nomatch of_forM_ok membersNamed none among
    changes := of_forM_ok changesFree
    enums := nodup_of_distinct enumsDistinct
    enumerators := of_forM_ok enumsAccepted }

private theorem ClassDecl.Accepted.nodup_members (accepted : c.Accepted) :
    (c.fill.functionNames ++ c.fill.signalNames).Nodup := by
  have distinct := nodup_given accepted.members (.inl accepted.named)
  refine List.Perm.nodup ?_ distinct
  simp only [memberNames, ClassDecl.fill, ClassDecl.functionNames, ClassDecl.signalNames, List.map_map,
    List.map_append, List.append_assoc]
  exact List.perm_append_comm.append_left _

private theorem ClassDecl.Accepted.changes_free (accepted : c.Accepted) :
    ∀ name ∈ c.fill.changeNames, name ∉ c.fill.signalNames := by
  intro name made
  obtain ⟨p, among, rfl⟩ := List.mem_map.mp made
  obtain ⟨among, notifies⟩ := List.mem_filter.mp among
  obtain ⟨q, declared, rfl⟩ := List.mem_map.mp among
  have named {name : Option Text} (among : name ∈ c.memberNames) : name ≠ none :=
    fun absent => accepted.named (absent ▸ among)
  have free := notMem_of_checkChange (named (by simp [memberNames]; exact .inl ⟨q, declared, rfl⟩))
    (fun s there => named (by simp [memberNames]; exact .inr (.inl ⟨s, there, rfl⟩))) (accepted.changes q declared)
    notifies
  simpa [ClassDecl.signalNames, ClassDecl.fill, Operation.fill] using free

private theorem ClassDecl.Accepted.declaredApart (accepted : c.Accepted)
    (written : ∀ e ∈ c.enums.present, e.name ≠ some Text.absent) : c.fill.DeclaredApart where
  members := accepted.nodup_members
  changes := accepted.changes_free
  enums := by
    have written : some Text.absent ∉ c.enums.present.map (·.name) := by
      intro among
      obtain ⟨e, declared, absent⟩ := List.mem_map.mp among
      exact written e declared absent
    have distinct := nodup_given accepted.enums (.inr written)
    simpa [ClassDecl.enumNames, ClassDecl.fill, Function.comp_def, EnumDecl.fill] using distinct

private theorem lists_of_check {d : Draft} (accepted : d.check = .ok ()) :
    d.enums.present.forM (EnumDecl.check []) = .ok () ∧ d.classes.present.forM ClassDecl.check = .ok () := by
  obtain ⟨classes, hasClasses, accepted⟩ := of_bind_ok accepted
  obtain ⟨_, -, accepted⟩ := of_bind_ok accepted
  obtain ⟨enums, hasEnums, accepted⟩ := of_bind_ok accepted
  obtain ⟨_, -, accepted⟩ := of_bind_ok accepted
  obtain ⟨_, enumsAccepted, accepted⟩ := of_bind_ok accepted
  obtain ⟨_, -, accepted⟩ := of_bind_ok accepted
  rw [present_of_required hasClasses, present_of_required hasEnums]
  exact ⟨enumsAccepted, accepted⟩

theorem declaredApart_of_check {d : Draft} (accepted : d.check = .ok ())
    (declared : c ∈ d.classes.present) (written : ∀ e ∈ c.enums.present, e.name ≠ some Text.absent) :
    c.fill.DeclaredApart :=
  (accepted_of_check (of_forM_ok (lists_of_check accepted).2 c declared)).declaredApart written

/-- The names of the members of the classes of an accepted draft differ, and change signals have names of their own. -/
theorem members_of_check {d : Draft} (accepted : d.check = .ok ()) {c : Counterpart.ClassDecl}
    (declared : c ∈ d.fill.classes) :
    (c.functionNames ++ c.signalNames).Nodup ∧ ∀ name ∈ c.changeNames, name ∉ c.signalNames := by
  obtain ⟨drafted, among, rfl⟩ := List.mem_map.mp declared
  have members := accepted_of_check (of_forM_ok (lists_of_check accepted).2 drafted among)
  exact ⟨members.nodup_members, members.changes_free⟩

private theorem enumerators_of_check {scope : Text} {e : EnumDecl} (accepted : e.check scope = .ok ()) :
    e.fill.enumerators ≠ [] := by
  simp only [EnumDecl.check] at accepted
  split at accepted
  next => cases accepted
  next populated =>
    obtain ⟨enumerators, hasEnumerators, -⟩ := of_bind_ok accepted
    rw [EnumDecl.fill, present_of_required hasEnumerators]
    cases given : e.enumerators with
    | none => simp [given] at populated
    | some items =>
      rw [given] at hasEnumerators
      have related := forall₂_of_mapM_ok hasEnumerators
      cases related with
      | nil => simp [given] at populated
      | cons _ _ => simp

/-- The enums of an accepted draft have enumerators. -/
theorem enumerators_ne_nil_of_check {d : Draft} (accepted : d.check = .ok ()) {e : Counterpart.EnumDecl}
    (declared : e ∈ d.fill.enums ∨ ∃ c ∈ d.fill.classes, e ∈ c.enums) : e.enumerators ≠ [] := by
  obtain ⟨enums, classes⟩ := lists_of_check accepted
  rcases declared with declared | ⟨c, isClass, declared⟩
  · obtain ⟨drafted, among, rfl⟩ := List.mem_map.mp declared
    exact enumerators_of_check (of_forM_ok enums drafted among)
  · obtain ⟨draftedClass, among, rfl⟩ := List.mem_map.mp isClass
    obtain ⟨drafted, isEnum, rfl⟩ := List.mem_map.mp declared
    exact enumerators_of_check ((accepted_of_check (of_forM_ok classes draftedClass among)).enumerators drafted isEnum)

end Draft

/-! ## Names that are made -/

/-- The name is made of ASCII letters, digits and underscores, the first of which is no digit. -/
def Text.IsPlain (t : Text) : Prop := t.isNamePart ∧ t.all (·.val < 128)

instance (t : Text) : Decidable t.IsPlain := inferInstanceAs (Decidable (_ ∧ _))

private theorem mem_map_unreserved {name : Text}
    (clear : ∀ word ∈ reservedWords, name ≠ word ∧ name ≠ word ++ ("_" : Text)) :
    name ∈ names.map Text.unreserved ↔ name ∈ names := by
  constructor
  · intro among
    obtain ⟨declared, isDeclared, rfl⟩ := List.mem_map.mp among
    by_cases isReserved : declared ∈ reservedWords
    · exact absurd (by simp [Text.unreserved, isReserved]) (clear declared isReserved).2
    · simpa [Text.unreserved, isReserved] using isDeclared
  · intro among
    have notReserved : name ∉ reservedWords := fun isReserved => (clear name isReserved).1 rfl
    exact List.mem_map.mpr ⟨name, among, by simp [Text.unreserved, notReserved]⟩

private theorem mem_map_unreserved_of_set {rest : Text} :
    ("set" : Text) ++ rest ∈ names.map Text.unreserved ↔ ("set" : Text) ++ rest ∈ names := by
  have apart : ∀ word ∈ reservedWords, ¬ ("set" : Text) <+: word ++ ("_" : Text) := by decide
  refine mem_map_unreserved fun word isReserved => ⟨?_, ?_⟩
  · rintro rfl
    exact apart _ isReserved ⟨rest ++ ("_" : Text), by simp⟩
  · intro same
    exact apart word isReserved ⟨rest, same⟩

private theorem mem_map_unreserved_of_changed {start : Text} :
    start ++ ("Changed" : Text) ∈ names.map Text.unreserved ↔ start ++ ("Changed" : Text) ∈ names := by
  have apart : ∀ word ∈ reservedWords, ¬ ("Changed" : Text) <:+ word ∧ ¬ ("Changed" : Text) <:+ word ++ ("_" : Text) := by
    decide
  refine mem_map_unreserved fun word isReserved => ⟨?_, ?_⟩
  · rintro rfl
    exact (apart _ isReserved).1 ⟨start, rfl⟩
  · intro same
    exact (apart word isReserved).2 ⟨start, same⟩

private theorem nodup_map_unreserved_iff {functions signals : List Text} (distinct : (functions ++ signals).Nodup) :
    (functions.map Text.unreserved ++ signals).Nodup ↔
      ∀ name ∈ functions, name ∈ reservedWords → name ++ ("_" : Text) ∉ functions ++ signals := by
  obtain ⟨functionsDistinct, signalsDistinct, apart⟩ := List.nodup_append'.mp distinct
  constructor
  · intro bound name isFunction isReserved clash
    obtain ⟨mapped, -, mappedApart⟩ := List.nodup_append'.mp bound
    have made : name.unreserved = name ++ ("_" : Text) := by simp [Text.unreserved, isReserved]
    rcases List.mem_append.mp clash with isOther | isSignal
    · have clear : ∀ word ∈ reservedWords, word ++ ("_" : Text) ∉ reservedWords := by decide
      have kept : (name ++ ("_" : Text)).unreserved = name ++ ("_" : Text) := by
        simp [Text.unreserved, clear name isReserved]
      have same := List.inj_on_of_nodup_map mapped isFunction isOther (made.trans kept.symm)
      exact absurd (List.append_right_eq_self.mp same.symm) (by decide)
    · exact mappedApart (List.mem_map_of_mem isFunction) (made ▸ isSignal)
  · intro free
    refine List.nodup_append'.mpr ⟨functionsDistinct.map_on ?_, signalsDistinct, ?_⟩
    · intro name isFunction other isOther same
      have freeName := free name isFunction
      have freeOther := free other isOther
      by_cases nameReserved : name ∈ reservedWords <;> by_cases otherReserved : other ∈ reservedWords <;>
        simp_all [Text.unreserved]
    · intro name among isSignal
      obtain ⟨declared, isFunction, rfl⟩ := List.mem_map.mp among
      have freeDeclared := free declared isFunction
      have notSignal := apart isFunction
      by_cases isReserved : declared ∈ reservedWords <;> simp_all [Text.unreserved]

namespace ClassDecl

/-- The names that a side of a class binds. -/
def boundNames (c : ClassDecl) : List Text :=
  c.enumNames ++ (c.setterNames ++ (c.changeNames ++ (c.functionNames.map Text.unreserved ++ c.signalNames)))

/-- No name that is made for a member of a class is the name of another one. -/
structure DerivedApart (c : ClassDecl) : Prop where
  enums : ∀ name ∈ c.enumNames,
    name ∉ c.setterNames ++ (c.changeNames ++ (c.functionNames.map Text.unreserved ++ c.signalNames))
  setters : c.setterNames.Nodup
  free : ∀ name ∈ c.setterNames, name ∉ c.changeNames ++ (c.functionNames ++ c.signalNames)
  changes : ∀ name ∈ c.changeNames, name ∉ c.functionNames
  reserved : ∀ name ∈ c.functionNames, name ∈ reservedWords →
    name ++ ("_" : Text) ∉ c.functionNames ++ c.signalNames

theorem nodup_changeNames (members : (c.functionNames ++ c.signalNames).Nodup) : c.changeNames.Nodup := by
  have named : (c.properties.map (·.name)).Nodup := members.of_append_left.of_append_left
  have notifying : ((c.properties.filter (·.notifies)).map (·.name)).Nodup := named.sublist (List.filter_sublist.map _)
  have changed : (((c.properties.filter (·.notifies)).map (·.name)).map (· ++ ("Changed" : Text))).Nodup :=
    notifying.map fun _ _ same => List.append_cancel_right same
  simpa [changeNames, Function.comp_def, Property.changeName] using changed

private theorem nodup_boundNames_iff (apart : c.DeclaredApart) : c.boundNames.Nodup ↔ c.DerivedApart := by
  have setter {name : Text} (made : name ∈ c.setterNames) :
      name ∈ c.functionNames.map Text.unreserved ↔ name ∈ c.functionNames := by
    obtain ⟨p, -, rfl⟩ := List.mem_map.mp made
    exact mem_map_unreserved_of_set
  have change {name : Text} (made : name ∈ c.changeNames) :
      name ∈ c.functionNames.map Text.unreserved ↔ name ∈ c.functionNames := by
    obtain ⟨p, -, rfl⟩ := List.mem_map.mp made
    exact mem_map_unreserved_of_changed
  rw [boundNames, List.nodup_append', List.nodup_append', List.nodup_append', nodup_map_unreserved_iff apart.members]
  constructor
  · rintro ⟨-, ⟨setters, ⟨-, reserved, changes⟩, free⟩, enums⟩
    refine ⟨fun name made => enums made, setters, fun name made clash => ?_, fun name made clash => ?_, reserved⟩
    · have freeName := free made
      simp only [List.mem_append, setter made] at freeName clash
      exact freeName clash
    · exact changes made (List.mem_append_left _ ((change made).mpr clash))
  · rintro ⟨enums, setters, free, changes, reserved⟩
    refine ⟨apart.enums, ⟨setters, ⟨nodup_changeNames apart.members, reserved, fun name made clash => ?_⟩,
      fun name made clash => ?_⟩, fun name made => enums name made⟩
    · rcases List.mem_append.mp clash with isFunction | isSignal
      · exact changes name made ((change made).mp isFunction)
      · exact apart.changes name made isSignal
    · have freeName := free name made
      simp only [List.mem_append, setter made] at freeName clash
      exact freeName clash

end ClassDecl

/-! ## Bound names -/

theorem map_name_signals (c : ClassDecl) : c.ordinals.signals.map (·.name) = c.changeNames ++ c.signalNames := by
  rw [map_signals c (·.1), ClassDecl.changeNames, ← map_snd_notifying]
  simp [ClassDecl.signalHeads, ClassDecl.signalNames, Function.comp_def]

private theorem keys_sourceBindings_perm (i : Interface) (c : ClassDecl) :
    (Keyed.keys (i.sourceBindings c)).Perm c.boundNames := by
  have bound : Keyed.keys (i.sourceBindings c) = c.enumNames ++ (c.changeNames ++ c.signalNames ++
      (c.properties.map (·.name.unreserved) ++ (c.setterNames ++ c.slots.map (·.name.unreserved)))) := by
    simp [Keyed.keys, Interface.sourceBindings, Interface.aliasBindings, Interface.signalBindings, ← map_name_signals,
      ClassDecl.enumNames, ClassDecl.setterNames, Function.comp_def]
  rw [bound, ClassDecl.boundNames, ClassDecl.functionNames, List.perm_iff_count]
  intro name
  simp only [List.map_append, List.map_map, List.count_append, Function.comp_def]
  omega

private theorem accessors_perm (c : ClassDecl) :
    (c.properties.flatMap fun p => p.name.unreserved :: if p.writable then [p.setterName] else []).Perm
      (c.properties.map (·.name.unreserved) ++ c.setterNames) := by
  have setters (properties : List Property) : (properties.filter (·.writable)).map (·.setterName) =
      properties.flatMap fun p => if p.writable then [p.setterName] else [] := by
    induction properties with
    | nil => rfl
    | cons p rest ih => by_cases writable : p.writable <;> simp [writable, ih]
  rw [ClassDecl.setterNames, setters]
  exact (List.map_append_flatMap_perm _ _ _).symm

private theorem keys_replicaBindings_perm (i : Interface) (c : ClassDecl) :
    (Keyed.keys (i.replicaBindings c)).Perm c.boundNames := by
  have accessors (n : NumberedProperty) : (i.replicaPropertyBindings c n).map (·.1) =
      n.property.name.unreserved :: if n.property.writable then [n.property.setterName] else [] := by
    by_cases writable : n.property.writable <;> simp [Interface.replicaPropertyBindings, writable]
  have slots : c.ordinals.methods.map (fun n => (Interface.replicaSlotBinding n).1) = c.slots.map (·.name.unreserved) := by
    conv_rhs => rw [← map_slot_ordinals, List.map_map]
    simp only [Function.comp_def, Interface.replicaSlotBinding]
  have bound : Keyed.keys (i.replicaBindings c) = c.enumNames ++ (c.changeNames ++ c.signalNames ++
      ((c.properties.flatMap fun p => p.name.unreserved :: if p.writable then [p.setterName] else []) ++
        c.slots.map (·.name.unreserved))) := by
    rw [← map_property_ordinals, ← slots, ← map_name_signals, List.flatMap_map]
    simp [Keyed.keys, Interface.replicaBindings, Interface.aliasBindings, Interface.signalBindings,
      ClassDecl.enumNames, Function.comp_def, List.map_flatMap, accessors]
  rw [bound, ClassDecl.boundNames, ClassDecl.functionNames, List.perm_iff_count]
  intro name
  have permuted := (accessors_perm c).count_eq name
  simp only [List.map_append, List.map_map, List.count_append, Function.comp_def] at permuted ⊢
  omega

/-! ## Main statement -/

/-- The names that the sides of an accepted class bind differ exactly if no name that is made for a member is the name
of another one. -/
theorem Draft.bindings_nodup_iff {d : Draft} (accepted : d.check = .ok ()) {c : Draft.ClassDecl}
    (declared : c ∈ d.classes.present) (written : ∀ e ∈ c.enums.present, e.name ≠ some Text.absent) :
    ((Keyed.keys (d.fill.replicaBindings c.fill)).Nodup ↔ c.fill.DerivedApart) ∧
      ((Keyed.keys (d.fill.sourceBindings c.fill)).Nodup ↔ c.fill.DerivedApart) := by
  have apart := Draft.declaredApart_of_check accepted declared written
  rw [(keys_replicaBindings_perm d.fill c.fill).nodup_iff, (keys_sourceBindings_perm d.fill c.fill).nodup_iff,
    ClassDecl.nodup_boundNames_iff apart]
  exact ⟨.rfl, .rfl⟩

def tank (slot : Text) : ClassDecl where
  name := "Tank"
  properties := [{ type := "int", name := "level", access := .readwrite }]
  slots := [{ name := slot, params := [], returnType := "void" }]

def tankDraft (slot : Text) : Draft := .ofInterface { classes := [tank slot] }

theorem Draft.bindings_nodup_iff_tank :
    ¬ (Keyed.keys ((tankDraft "levelChanged").fill.sourceBindings (tank "levelChanged"))).Nodup ∧
      (Keyed.keys ((tankDraft "drain").fill.sourceBindings (tank "drain"))).Nodup := by
  have clash := bindings_nodup_iff (d := tankDraft "levelChanged") (c := .full (tank "levelChanged")) rfl (by decide)
    (by decide)
  have clear := bindings_nodup_iff (d := tankDraft "drain") (c := .full (tank "drain")) rfl (by decide) (by decide)
  constructor
  · intro distinct
    have apart := clash.2.mp distinct
    exact apart.changes "levelChanged" (by decide) (by decide)
  · exact clear.2.mpr ⟨by decide, by decide, by decide, by decide, by decide⟩

end Counterpart
