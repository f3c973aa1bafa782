import Counterpart.Proofs.Clashes
import Mathlib

/-!
The members of a class are numbered by their positions. Main statement: in an accepted draft the numbers of a class are
the positions in its three families, the signals that tell of changes are paired with the properties that can change
in one order, and names are taken to numbers and nothing else. A name is looked for from the first member on, so this
rests on names that differ: those of change signals, which are made, from one another and from the declared ones.
-/
namespace Counterpart

variable {c : ClassDecl} {k : Int} {kind : MemberKind} {n : Nat} {name : Text}

namespace ClassDecl

def namesOf (c : ClassDecl) : MemberKind → List Text
  | .property => c.properties.map (·.name)
  | .signal => c.changeNames ++ c.signalNames
  | .method => c.slots.map (·.name)

def changeOrdinals (c : ClassDecl) : Set Int := Set.Ico 0 c.changeNames.length

def changingOrdinals (c : ClassDecl) : Set Int :=
  {k | ∃ (n : Nat) (p : Property), c.properties[n]? = some p ∧ p.access ≠ .constant ∧ k = n}

/-- The ordinals number the members of the class faithfully. -/
structure NumberedBy (c : ClassDecl) (o : Ordinals) : Prop where
  properties : o.properties.map (·.property) = c.properties
  signals : o.signals.map (fun s => (s.name, s.params)) =
    c.changeNames.map (fun name => (name, [])) ++ c.signals.map fun s => (s.name, s.params)
  methods : o.methods.map (·.slot) = c.slots
  propertyPositions : o.properties.map (·.ordinal) = List.range c.properties.length
  signalPositions : o.signals.map (·.ordinal) = List.range (c.namesOf .signal).length
  methodPositions : o.methods.map (·.ordinal) = List.range c.slots.length
  increasing : StrictMonoOn o.propertyForSignal c.changeOrdinals
  pairs : Set.BijOn o.propertyForSignal c.changeOrdinals c.changingOrdinals
  others : ∀ k ∉ c.changeOrdinals, o.propertyForSignal k = -1
  found : ∀ kind (n : Nat) name, (c.namesOf kind)[n]? = some name → o.ordinalOf kind name = n
  missing : ∀ kind, ∀ name ∉ c.namesOf kind, o.ordinalOf kind name = -1

/-! ## Change signals -/

theorem mem_notifying {p : Property} : (n, p) ∈ c.notifying ↔ c.properties[n]? = some p ∧ p.access ≠ .constant := by
  simp [notifying, List.mem_zipIdx_iff_getElem?, Property.notifies]

theorem pairwise_notifying (c : ClassDecl) : (c.notifying.map (·.1)).Pairwise (· < ·) := by
  have numbers : (c.properties.zipIdx.map fun entry => (entry.2, entry.1)).map (·.1) = List.range' 0 c.properties.length := by
    rw [List.map_map]
    exact List.zipIdx_map_snd 0 c.properties
  have kept : (c.notifying.map (·.1)).Sublist (List.range' 0 c.properties.length) := numbers ▸ List.filter_sublist.map _
  exact (List.pairwise_lt_range' (s := 0)).sublist kept

theorem mem_changeOrdinals :
    k ∈ c.changeOrdinals ↔ ∃ (n : Nat) (entry : Nat × Property), k = n ∧ c.notifying[n]? = some entry := by
  have size : c.notifying.length = c.changeNames.length := by simp [changeNames, ← map_snd_notifying]
  rw [changeOrdinals, ← size, Set.mem_Ico]
  constructor
  · rintro ⟨lower, upper⟩
    obtain ⟨n, rfl⟩ := Int.eq_ofNat_of_zero_le lower
    exact ⟨n, _, rfl, List.getElem?_eq_getElem (by omega)⟩
  · rintro ⟨n, entry, rfl, there⟩
    obtain ⟨inside, -⟩ := List.getElem?_eq_some_iff.mp there
    omega

theorem propertyForSignal_of_notifying {entry : Nat × Property}
    (there : c.notifying[n]? = some entry) : c.ordinals.propertyForSignal n = entry.1 := by
  have told := property?_signals c n
  rw [there] at told
  obtain ⟨s, isSignal, reports⟩ := Option.bind_eq_some_iff.mp told
  simp [Ordinals.propertyForSignal, isSignal, reports]

theorem propertyForSignal_of_notMem (other : k ∉ c.changeOrdinals) : c.ordinals.propertyForSignal k = -1 := by
  rw [Ordinals.propertyForSignal]
  split
  next => rfl
  next notNegative =>
    obtain ⟨n, rfl⟩ := Int.eq_ofNat_of_zero_le (Int.not_lt.mp notNegative)
    have absent : c.notifying[n]? = none := by
      by_contra there
      obtain ⟨entry, there⟩ := Option.ne_none_iff_exists'.mp there
      exact other (mem_changeOrdinals.mpr ⟨n, entry, rfl, there⟩)
    have told := property?_signals c n
    rw [absent] at told
    cases isSignal : c.ordinals.signals[n]? with
    | none => simp [isSignal]
    | some s =>
      have silent : s.property? = none := by simpa [isSignal] using told
      simp [isSignal, silent]

theorem strictMonoOn_propertyForSignal (c : ClassDecl) :
    StrictMonoOn c.ordinals.propertyForSignal c.changeOrdinals := by
  intro k isChange l isOther below
  obtain ⟨n, first, rfl, there⟩ := mem_changeOrdinals.mp isChange
  obtain ⟨m, second, rfl, thereToo⟩ := mem_changeOrdinals.mp isOther
  rw [propertyForSignal_of_notifying there, propertyForSignal_of_notifying thereToo]
  obtain ⟨inside, isFirst⟩ := List.getElem?_eq_some_iff.mp there
  obtain ⟨insideToo, isSecond⟩ := List.getElem?_eq_some_iff.mp thereToo
  have ordered := List.pairwise_iff_getElem.mp c.pairwise_notifying n m (by simpa using inside) (by simpa using insideToo)
    (by omega)
  simp only [List.getElem_map, isFirst, isSecond] at ordered
  omega

theorem bijOn_propertyForSignal (c : ClassDecl) :
    Set.BijOn c.ordinals.propertyForSignal c.changeOrdinals c.changingOrdinals := by
  refine ⟨fun k isChange => ?_, c.strictMonoOn_propertyForSignal.injOn, fun k isChanging => ?_⟩
  · obtain ⟨n, entry, rfl, there⟩ := mem_changeOrdinals.mp isChange
    obtain ⟨declared, changes⟩ := mem_notifying.mp (List.mem_of_getElem? there)
    exact ⟨entry.1, entry.2, declared, changes, propertyForSignal_of_notifying there⟩
  · obtain ⟨n, p, declared, changes, rfl⟩ := isChanging
    obtain ⟨m, there⟩ := List.mem_iff_getElem?.mp (mem_notifying.mpr ⟨declared, changes⟩)
    exact ⟨m, mem_changeOrdinals.mpr ⟨m, _, rfl, there⟩, propertyForSignal_of_notifying there⟩

/-! ## Names -/

theorem members_ordinals (c : ClassDecl) (kind : MemberKind) : c.ordinals.members kind = (c.namesOf kind).zipIdx := by
  cases kind with
  | property => simp [Ordinals.members, ordinals, namesOf, List.zipIdx_map, Function.comp_def, Prod.map]
  | method => simp [Ordinals.members, ordinals, namesOf, List.zipIdx_map, Function.comp_def, Prod.map]
  | signal =>
    have heads : c.signalHeads.map (·.1) = c.namesOf .signal := (map_signals c (·.1)).symm.trans (map_name_signals c)
    simp [Ordinals.members, ordinals, ← heads, List.zipIdx_map, Function.comp_def, Prod.map]

theorem nodup_namesOf (members : (c.functionNames ++ c.signalNames).Nodup)
    (changes : ∀ name ∈ c.changeNames, name ∉ c.signalNames) (kind : MemberKind) : (c.namesOf kind).Nodup := by
  have functions := members.of_append_left
  cases kind with
  | property => exact functions.of_append_left
  | method => exact functions.of_append_right
  | signal => exact (nodup_changeNames members).append members.of_append_right changes

theorem ordinalOf_of_getElem? (distinct : (c.namesOf kind).Nodup) (there : (c.namesOf kind)[n]? = some name) :
    c.ordinals.ordinalOf kind name = n := by
  have numbered : (name, n) ∈ (c.namesOf kind).zipIdx := List.mem_zipIdx_iff_getElem?.mpr there
  obtain ⟨member, found⟩ : ∃ member, (c.namesOf kind).zipIdx.find? (fun member => member.1 = name) = some member :=
    Option.isSome_iff_exists.mp (List.find?_isSome.mpr ⟨_, numbered, by simp⟩)
  have same : member.1 = name := by simpa using List.find?_some found
  have thereToo : (c.namesOf kind)[member.2]? = some name :=
    same ▸ List.mem_zipIdx_iff_getElem?.mp (List.mem_of_find?_eq_some found)
  obtain ⟨inside, -⟩ := List.getElem?_eq_some_iff.mp there
  have position : n = member.2 := (List.getElem?_inj inside distinct).mp (there.trans thereToo.symm)
  simp [Ordinals.ordinalOf, members_ordinals, found, position]

theorem ordinalOf_of_notMem (other : name ∉ c.namesOf kind) : c.ordinals.ordinalOf kind name = -1 := by
  have absent : (c.namesOf kind).zipIdx.find? (fun member => member.1 = name) = none := by
    refine List.find?_eq_none.mpr fun member numbered same => other ?_
    have there := List.mem_zipIdx_iff_getElem?.mp numbered
    exact (of_decide_eq_true same) ▸ List.mem_of_getElem? there
  simp [Ordinals.ordinalOf, members_ordinals, absent]

end ClassDecl

/-! ## Main statement -/

/-- The members of the classes of an accepted draft are numbered faithfully. -/
theorem Draft.numberedBy_ordinals {d : Draft} (accepted : d.check = .ok ()) {c : Counterpart.ClassDecl}
    (declared : c ∈ d.fill.classes) : c.NumberedBy c.ordinals := by
  obtain ⟨members, changes⟩ := members_of_check accepted declared
  have positions (kind : MemberKind) : (c.ordinals.members kind).map (·.2) = List.range (c.namesOf kind).length := by
    rw [c.members_ordinals, List.zipIdx_map_snd, List.range_eq_range']
  exact {
    properties := map_property_ordinals c
    signals := by
      rw [map_signals c fun head => (head.1, head.2.1)]
      simp [ClassDecl.signalHeads, ClassDecl.changeNames, ← map_snd_notifying, Function.comp_def]
    methods := map_slot_ordinals c
    propertyPositions := by simpa [Ordinals.members, ClassDecl.namesOf, Function.comp_def] using positions .property
    signalPositions := by simpa [Ordinals.members, Function.comp_def] using positions .signal
    methodPositions := by simpa [Ordinals.members, ClassDecl.namesOf, Function.comp_def] using positions .method
    increasing := c.strictMonoOn_propertyForSignal
    pairs := c.bijOn_propertyForSignal
    others := fun _ => ClassDecl.propertyForSignal_of_notMem
    found := fun kind _ _ => ClassDecl.ordinalOf_of_getElem? (ClassDecl.nodup_namesOf members changes kind)
    missing := fun _ _ => ClassDecl.ordinalOf_of_notMem }

def valve : ClassDecl where
  name := "Valve"
  properties := [
    { type := "QString", name := "maker", access := .constant },
    { type := "int", name := "flow", access := .readonly },
    { type := "int", name := "size", access := .constant },
    { type := "bool", name := "open", access := .readwrite }]
  signals := [{ name := "leaking", params := [], returnType := "void" }]
  slots := [{ name := "close", params := [], returnType := "void" }]

theorem Draft.numberedBy_ordinals_valve : (Draft.ofInterface { classes := [valve] }).check = .ok () ∧
    valve.NumberedBy valve.ordinals ∧ valve.ordinals.ordinalOf .signal "openChanged" = 1 ∧
    valve.ordinals.ordinalOf .signal "sizeChanged" = -1 := by
  have accepted : (Draft.ofInterface { classes := [valve] }).check = .ok () := rfl
  have numbered := Draft.numberedBy_ordinals accepted (c := valve) (by decide)
  exact ⟨accepted, numbered, numbered.found .signal 1 _ rfl, numbered.missing .signal _ (by decide)⟩

end Counterpart
