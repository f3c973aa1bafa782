import Counterpart.Proofs.Members

/-!
Classes that grow. A member that is put behind the others of its family leaves the numbers of all members as they are,
but for one case: a property that notifies brings a change signal, which stands in front of the declared signals and
moves each of them up by one. Main statement: nothing else moves, and every signal tells of the property that it told
of before.
-/
namespace Counterpart

variable {c : ClassDecl} {kind : MemberKind} {s : NumberedSignal}

/-- A member that is put behind the others of its family. -/
inductive Addition where
  | property (p : Property)
  | signal (s : Operation)
  | slot (s : Operation)
  deriving DecidableEq, Repr

namespace Addition

def notifies : Addition → Bool
  | .property p => p.notifies
  | _ => false

/-- The change signals that come with an addition to a class with the given ordinals. -/
def changes (o : Ordinals) : Addition → List NumberedSignal
  | .property p => if p.notifies then [⟨o.changes.length, p.changeName, [], some o.properties.length⟩] else []
  | _ => []

/-- How far the declared signals move up. -/
def shift (a : Addition) : Nat := if a.notifies then 1 else 0

end Addition

def ClassDecl.add (c : ClassDecl) : Addition → ClassDecl
  | .property p => { c with properties := c.properties ++ [p] }
  | .signal s => { c with signals := c.signals ++ [s] }
  | .slot s => { c with slots := c.slots ++ [s] }

/-- The signal after the declared signals have moved up. -/
def NumberedSignal.moved (shift : Nat) (s : NumberedSignal) : NumberedSignal :=
  if s.isChange then s else { s with ordinal := s.ordinal + shift }

namespace Ordinals

/-- All members keep their numbers, but for the declared signals, which move up. A name leads to the member that it
led to, unless it is that of a declared signal and a change signal takes it. -/
structure GrowsTo (before after : Ordinals) (shift : Nat) : Prop where
  properties : before.properties <+: after.properties
  methods : before.methods <+: after.methods
  changes : before.changes <+: after.changes
  declared : before.declared.map (·.moved shift) <+: after.declared
  told : ∀ s ∈ before.signals, after.propertyForSignal (s.moved shift).ordinal = before.propertyForSignal s.ordinal
  found : ∀ kind ≠ .signal, ∀ member ∈ before.members kind,
    after.ordinalOf kind member.1 = before.ordinalOf kind member.1
  foundChange : ∀ s ∈ before.changes, after.ordinalOf .signal s.name = before.ordinalOf .signal s.name
  foundDeclared : ∀ s ∈ before.declared, s.name ∉ after.changes.map (·.name) →
    after.ordinalOf .signal s.name = before.ordinalOf .signal s.name + shift

end Ordinals

namespace NumberedSignal

variable {shift : Nat}

@[simp] theorem isChange_moved : (s.moved shift).isChange = s.isChange := by
  rw [moved]
  split <;> rfl

@[simp] theorem property?_moved : (s.moved shift).property? = s.property? := by
  rw [moved]
  split <;> rfl

@[simp] theorem name_moved : (s.moved shift).name = s.name := by
  rw [moved]
  split <;> rfl

theorem moved_of_not_isChange (declared : s.isChange = false) :
    s.moved shift = { s with ordinal := s.ordinal + shift } := by
  simp [moved, declared]

theorem moved_of_isChange (change : s.isChange = true) : s.moved shift = s := by
  simp [moved, change]

theorem moved_moved (further : Nat) : (s.moved shift).moved further = s.moved (shift + further) := by
  cases change : s.isChange with
  | false =>
    rw [moved_of_not_isChange (isChange_moved.trans change), moved_of_not_isChange change, moved_of_not_isChange change,
      Nat.add_assoc]
  | true => rw [moved_of_isChange (isChange_moved.trans change), moved_of_isChange change, moved_of_isChange change]

end NumberedSignal

/-! ## Signals by their two families -/

namespace ClassDecl

variable (c : ClassDecl)

def numberedChanges : List NumberedSignal :=
  c.notifying.zipIdx.map fun entry => ⟨entry.2, entry.1.2.changeName, [], some entry.1.1⟩

def numberedDeclared (start : Nat) : List NumberedSignal :=
  (c.signals.zipIdx start).map fun entry => ⟨entry.2, entry.1.name, entry.1.params, none⟩

theorem signals_ordinals : c.ordinals.signals = c.numberedChanges ++ c.numberedDeclared c.notifying.length := by
  simp [ordinals, signalHeads, numberedChanges, numberedDeclared, List.zipIdx_append, List.zipIdx_map, Function.comp_def]

theorem changes_ordinals : c.ordinals.changes = c.numberedChanges := by
  simp [Ordinals.changes, signals_ordinals, numberedChanges, numberedDeclared, List.filter_map, Function.comp_def,
    NumberedSignal.isChange]

theorem declared_ordinals : c.ordinals.declared = c.numberedDeclared c.notifying.length := by
  simp [Ordinals.declared, signals_ordinals, numberedChanges, numberedDeclared, List.filter_map, Function.comp_def,
    NumberedSignal.isChange]

theorem moved_numberedDeclared (start shift : Nat) :
    (c.numberedDeclared start).map (·.moved shift) = c.numberedDeclared (start + shift) := by
  rw [numberedDeclared, numberedDeclared, Nat.add_comm, List.zipIdx_eq_map_add,
    List.zipIdx_eq_map_add (i := shift + start)]
  simp [NumberedSignal.moved, NumberedSignal.isChange]
  omega

/-- A signal stands at the position of its ordinal. -/
theorem getElem?_signals {c : ClassDecl} (among : s ∈ c.ordinals.signals) :
    c.ordinals.signals[s.ordinal]? = some s := by
  obtain ⟨entry, numbered, rfl⟩ := List.mem_map.mp among
  have there := List.mem_zipIdx_iff_getElem?.mp numbered
  simp [ordinals, List.getElem?_map, List.getElem?_zipIdx, there]

theorem propertyForSignal_ordinal {c : ClassDecl} (among : s ∈ c.ordinals.signals) :
    c.ordinals.propertyForSignal s.ordinal = s.property?.elim (-1) Int.ofNat := by
  simp only [Ordinals.propertyForSignal, Int.toNat_natCast, getElem?_signals among]
  cases s.property? <;> simp

/-! ## One addition -/

variable {c} {a : Addition}

theorem notifying_add_property (p : Property) : (c.add (.property p)).notifying =
    c.notifying ++ if p.notifies then [(c.properties.length, p)] else [] := by
  cases told : p.notifies <;> simp [notifying, add, List.zipIdx_append, told]

theorem length_notifying_add : (c.add a).notifying.length = c.notifying.length + a.shift := by
  cases a with
  | property p =>
    rw [notifying_add_property, List.length_append, Addition.shift, Addition.notifies]
    split <;> rfl
  | signal s => rfl
  | slot s => rfl

theorem changes_add : (c.add a).ordinals.changes = c.ordinals.changes ++ a.changes c.ordinals := by
  rw [changes_ordinals, changes_ordinals]
  cases a with
  | property p =>
    have numbered : c.ordinals.changes.length = c.notifying.length := by simp [changes_ordinals, numberedChanges]
    rw [numberedChanges, notifying_add_property, Addition.changes, numbered]
    cases p.notifies <;> simp [numberedChanges, List.zipIdx_append, ordinals]
  | signal s => exact (List.append_nil _).symm
  | slot s => exact (List.append_nil _).symm

theorem declared_add : c.ordinals.declared.map (·.moved a.shift) <+: (c.add a).ordinals.declared := by
  rw [declared_ordinals, declared_ordinals, moved_numberedDeclared, length_notifying_add]
  cases a with
  | property p => exact List.prefix_rfl
  | signal s =>
    rw [numberedDeclared, numberedDeclared, add, List.zipIdx_append, List.map_append]
    exact List.prefix_append _ _
  | slot s => exact List.prefix_rfl

theorem properties_add : c.ordinals.properties <+: (c.add a).ordinals.properties := by
  cases a with
  | property p => simp [ordinals, add, List.zipIdx_append]
  | signal s => exact List.prefix_rfl
  | slot s => exact List.prefix_rfl

theorem methods_add : c.ordinals.methods <+: (c.add a).ordinals.methods := by
  cases a with
  | property p => exact List.prefix_rfl
  | signal s => exact List.prefix_rfl
  | slot s => simp [ordinals, add, List.zipIdx_append]

end ClassDecl

/-! ## Signals and names after an addition -/

namespace Ordinals

variable {before after : Ordinals}

theorem moved_mem_signals {shift : Nat} (changes : before.changes <+: after.changes)
    (declared : before.declared.map (·.moved shift) <+: after.declared) (among : s ∈ before.signals) :
    s.moved shift ∈ after.signals := by
  cases change : s.isChange with
  | true =>
    have kept := changes.subset (List.mem_filter.mpr ⟨among, change⟩)
    rw [NumberedSignal.moved_of_isChange change]
    exact (List.mem_filter.mp kept).1
  | false =>
    have isDeclared : s ∈ before.declared := List.mem_filter.mpr ⟨among, by simp [change]⟩
    exact (List.mem_filter.mp (declared.subset (List.mem_map_of_mem isDeclared))).1

/-- Names of members that stand first in both lead to the same ordinals. -/
theorem ordinalOf_of_prefix {start : List (Text × Nat)} (first : start <+: before.members kind)
    (second : start <+: after.members kind) {member : Text × Nat} (among : member ∈ start) :
    after.ordinalOf kind member.1 = before.ordinalOf kind member.1 := by
  obtain ⟨found, isFirst⟩ : ∃ found, start.find? (fun other => other.1 = member.1) = some found :=
    Option.isSome_iff_exists.mp (List.find?_isSome.mpr ⟨member, among, by simp⟩)
  simp [ordinalOf, first.find?_eq_some isFirst, second.find?_eq_some isFirst]

theorem members_signal (sorted : after.signals = after.changes ++ after.declared) : after.members .signal =
    after.changes.map (fun s => (s.name, s.ordinal)) ++ after.declared.map fun s => (s.name, s.ordinal) := by
  rw [members, sorted, List.map_append]

theorem ordinalOf_change (sortedBefore : before.signals = before.changes ++ before.declared)
    (sortedAfter : after.signals = after.changes ++ after.declared) (changes : before.changes <+: after.changes)
    (among : s ∈ before.changes) : after.ordinalOf .signal s.name = before.ordinalOf .signal s.name := by
  have first : before.changes.map (fun s => (s.name, s.ordinal)) <+: before.members .signal :=
    members_signal sortedBefore ▸ List.prefix_append _ _
  have second : before.changes.map (fun s => (s.name, s.ordinal)) <+: after.members .signal :=
    members_signal sortedAfter ▸ (changes.map _).trans (List.prefix_append _ _)
  exact ordinalOf_of_prefix first second (List.mem_map_of_mem among)

/-- A name that no change signal has leads to the first declared signal of that name. -/
theorem ordinalOf_declared (sorted : after.signals = after.changes ++ after.declared) {name : Text}
    (free : name ∉ after.changes.map (·.name)) {start : List NumberedSignal} (first : start <+: after.declared)
    (found : start.find? (fun other => other.name = name) = some s) :
    after.ordinalOf .signal name = s.ordinal := by
  have absent : (after.changes.map fun s => (s.name, s.ordinal)).find? (fun member => member.1 = name) = none := by
    simpa using free
  have there : (after.declared.map fun s => (s.name, s.ordinal)).find? (fun member => member.1 = name) =
      some (s.name, s.ordinal) := by
    rw [List.find?_map]
    exact congrArg (Option.map _) (first.find?_eq_some found)
  simp [ordinalOf, members_signal sorted, List.find?_append, absent, there]

end Ordinals

namespace ClassDecl

variable {a : Addition}

theorem changes_first (c : ClassDecl) : c.ordinals.signals = c.ordinals.changes ++ c.ordinals.declared := by
  rw [changes_ordinals, declared_ordinals, signals_ordinals]

theorem ordinalOf_declared_add (among : s ∈ c.ordinals.declared)
    (free : s.name ∉ (c.add a).ordinals.changes.map (·.name)) :
    (c.add a).ordinals.ordinalOf .signal s.name = c.ordinals.ordinalOf .signal s.name + a.shift := by
  obtain ⟨first, found⟩ : ∃ first, c.ordinals.declared.find? (fun other => other.name = s.name) = some first :=
    Option.isSome_iff_exists.mp (List.find?_isSome.mpr ⟨s, among, by simp⟩)
  have freeBefore : s.name ∉ c.ordinals.changes.map (·.name) := fun taken =>
    free (by rw [changes_add, List.map_append]; exact List.mem_append_left _ taken)
  have foundAfter : (c.ordinals.declared.map (·.moved a.shift)).find? (fun other => other.name = s.name) =
      some (first.moved a.shift) := by
    simp only [List.find?_map, Function.comp_def, NumberedSignal.name_moved, found, Option.map_some]
  have isDeclared : first.isChange = false := by
    simpa using (List.mem_filter.mp (List.mem_of_find?_eq_some found)).2
  rw [Ordinals.ordinalOf_declared (changes_first _) free declared_add foundAfter,
    Ordinals.ordinalOf_declared (changes_first c) freeBefore List.prefix_rfl found,
    NumberedSignal.moved_of_not_isChange isDeclared]
  rfl

theorem grows_add (c : ClassDecl) (a : Addition) : c.ordinals.GrowsTo (c.add a).ordinals a.shift := by
  have changes : c.ordinals.changes <+: (c.add a).ordinals.changes := changes_add ▸ List.prefix_append _ _
  exact {
    properties := properties_add
    methods := methods_add
    changes := changes
    declared := declared_add
    told := fun s among => by
      rw [propertyForSignal_ordinal (Ordinals.moved_mem_signals changes declared_add among),
        propertyForSignal_ordinal among, NumberedSignal.property?_moved]
    found := fun kind isOther member among => by
      refine Ordinals.ordinalOf_of_prefix List.prefix_rfl ?_ among
      cases kind with
      | property => exact properties_add.map _
      | signal => exact absurd rfl isOther
      | method => exact methods_add.map _
    foundChange := fun s => Ordinals.ordinalOf_change (changes_first c) (changes_first _) changes
    foundDeclared := fun s => ordinalOf_declared_add }

/-- One addition moves the declared signals up by one if it brings a change signal, and else nothing. A change signal
that comes with it is numbered after those that there were. -/
theorem ordinals_growsTo_add (c : ClassDecl) (a : Addition) : c.ordinals.GrowsTo (c.add a).ordinals a.shift ∧
    (c.add a).ordinals.changes = c.ordinals.changes ++ a.changes c.ordinals :=
  ⟨grows_add c a, changes_add⟩

end ClassDecl

/-! ## Many additions -/

namespace Ordinals.GrowsTo

variable {before middle after : Ordinals} {shift further : Nat}

theorem refl (o : Ordinals) : o.GrowsTo o 0 := by
  have stays (s : NumberedSignal) : s.moved 0 = s := by simp [NumberedSignal.moved]
  constructor <;> simp [stays]

theorem members (grows : before.GrowsTo middle shift) (isOther : kind ≠ .signal) :
    before.members kind <+: middle.members kind := by
  cases kind with
  | property => exact grows.properties.map _
  | signal => exact absurd rfl isOther
  | method => exact grows.methods.map _

theorem moved_mem (grows : before.GrowsTo middle shift) (among : s ∈ before.declared) :
    s.moved shift ∈ middle.declared := grows.declared.subset (List.mem_map_of_mem among)

theorem trans (first : before.GrowsTo middle shift) (second : middle.GrowsTo after further) :
    before.GrowsTo after (shift + further) where
  properties := first.properties.trans second.properties
  methods := first.methods.trans second.methods
  changes := first.changes.trans second.changes
  declared := by
    have twice : before.declared.map (·.moved (shift + further)) =
        (before.declared.map (·.moved shift)).map (·.moved further) := by
      simp [Function.comp_def, NumberedSignal.moved_moved]
    exact twice ▸ (first.declared.map _).trans second.declared
  told s among := by
    rw [← NumberedSignal.moved_moved, second.told _ (moved_mem_signals first.changes first.declared among),
      first.told s among]
  found kind isOther member among := by
    rw [second.found kind isOther member ((first.members isOther).subset among), first.found kind isOther member among]
  foundChange s among := by
    rw [second.foundChange s (first.changes.subset among), first.foundChange s among]
  foundDeclared s among free := by
    have freeBefore : s.name ∉ middle.changes.map (·.name) := fun taken => free ((second.changes.map _).subset taken)
    have later := second.foundDeclared _ (first.moved_mem among) (by simpa using free)
    rw [NumberedSignal.name_moved] at later
    rw [later, first.foundDeclared s among freeBefore]
    omega

end Ordinals.GrowsTo

/-- However a class grows, its change signals stay, and a declared signal has moved up by the number of properties
that notify among the members added. -/
theorem ClassDecl.ordinals_growsTo_foldl (c : ClassDecl) (additions : List Addition) :
    c.ordinals.GrowsTo (additions.foldl add c).ordinals (additions.countP (·.notifies)) := by
  induction additions generalizing c with
  | nil => exact .refl _
  | cons a rest ih =>
    have shifts : (a :: rest).countP (·.notifies) = a.shift + rest.countP (·.notifies) := by
      rw [List.countP_cons, Nat.add_comm]
      rfl
    exact shifts ▸ (grows_add c a).trans (ih (c.add a))

end Counterpart
