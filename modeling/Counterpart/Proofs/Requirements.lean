import Counterpart.Proofs.Clashes
import Counterpart.Proofs.Dispatch

/-!
What binding a class to a type asks for. A class requires members of a type and looks for them in one order. Main
statement: once its texts can be read, binding a class does nothing that can fail but look for what it requires, so the
first thing that is lacking is what it fails with.
-/
namespace Counterpart

variable {c : ClassDecl} {i : Interface}

/-! ## Requirements -/

/-- What a class requires of a type, in the order in which it is looked for. -/
def ClassDecl.required (c : ClassDecl) : List (Requirement × Text) :=
  c.properties.map (fun p => (.property, p.name)) ++ c.setterNames.map (fun name => (.setter, name)) ++
    (c.changeNames ++ c.signalNames).map (fun name => (.signal, name)) ++ c.slots.map (fun s => (.slot, s.name))

/-- What is required goes by the ordinals. -/
theorem ClassDecl.required_eq (c : ClassDecl) : c.required =
    c.ordinals.properties.map (fun n => (.property, n.property.name)) ++
      (c.properties.filter (·.writable)).map (fun p => (.setter, p.setterName)) ++
      c.ordinals.signals.map (fun s => (.signal, s.name)) ++ c.ordinals.methods.map (fun n => (.slot, n.slot.name)) := by
  have properties := congrArg (List.map fun p => (Requirement.property, p.name)) (map_property_ordinals c)
  have signals := congrArg (List.map fun name => (Requirement.signal, name)) (map_name_signals c)
  have slots := congrArg (List.map fun s => (Requirement.slot, s.name)) (map_slot_ordinals c)
  rw [List.map_map] at properties signals slots
  rw [required, ← properties, ← signals, ← slots, setterNames, List.map_map]
  rfl

theorem ClassDecl.forall_required {p : Requirement × Text → Prop} : (∀ r ∈ c.required, p r) ↔
    (∀ q ∈ c.properties, p (.property, q.name)) ∧ (∀ name ∈ c.setterNames, p (.setter, name)) ∧
      (∀ name ∈ c.changeNames ++ c.signalNames, p (.signal, name)) ∧ ∀ s ∈ c.slots, p (.slot, s.name) := by
  rw [required, List.forall_mem_append, List.forall_mem_append, List.forall_mem_append, and_assoc, and_assoc]
  simp only [List.forall_mem_map]

namespace Lineage

def Meets (l : Lineage) : Requirement × Text → Prop
  | (.property, name) => name ∈ l.metaObject.properties
  | (.setter, name) => (l.member? name).any Member.isCallable
  | (.signal, name) => name ∈ l.metaObject.signals
  | (.slot, name) => name ∈ l.metaObject.methods

instance (l : Lineage) (r : Requirement × Text) : Decidable (l.Meets r) :=
  match r with
  | (.property, name) => inferInstanceAs (Decidable (name ∈ l.metaObject.properties))
  | (.setter, name) => inferInstanceAs (Decidable ((l.member? name).any Member.isCallable = true))
  | (.signal, name) => inferInstanceAs (Decidable (name ∈ l.metaObject.signals))
  | (.slot, name) => inferInstanceAs (Decidable (name ∈ l.metaObject.methods))

def check (l : Lineage) (cls : Text) (r : Requirement × Text) : Except Fault Unit :=
  if l.Meets r then .ok () else .error (.nonconforming l.className r.1 r.2 cls)

theorem forM_check (l : Lineage) (cls : Text) (rs : List (Requirement × Text)) :
    rs.forM (l.check cls) = match rs.find? (fun r => ¬ l.Meets r) with
      | some r => .error (.nonconforming l.className r.1 r.2 cls)
      | none => .ok () := by
  induction rs with
  | nil => rfl
  | cons r rest ih =>
    have first : (r :: rest).forM (l.check cls) = l.check cls r >>= fun _ => rest.forM (l.check cls) := rfl
    by_cases meets : l.Meets r <;> simp [first, check, meets, ih]

end Lineage

/-! ## Binding -/

section

variable {ε α β : Type}

theorem forget_next {x : Except ε α} {next : α → Except ε β} {rest : Except ε Unit}
    (same : ∀ a, (next a).map (fun _ => ()) = rest) :
    (x >>= next).map (fun _ => ()) = x.map (fun _ => ()) >>= fun _ => rest := by
  cases x with
  | error e => rfl
  | ok a => exact same a

theorem forget_mapM {f : α → Except ε β} {xs : List α} :
    (xs.mapM f).map (fun _ => ()) = xs.forM fun x => (f x).map fun _ => () := by
  induction xs with
  | nil => rfl
  | cons x rest ih =>
    have later (y : β) : (rest.mapM f >>= fun ys => pure (y :: ys)).map (fun _ => ()) =
        rest.forM fun x => (f x).map fun _ => () := by
      rw [← ih]
      cases rest.mapM f <;> rfl
    rw [List.mapM_cons]
    exact forget_next later

theorem forget_unit (x : Except ε Unit) : x.map (fun _ => ()) = x := by
  cases x <;> rfl

theorem bind_ok (x : Except ε Unit) : (x >>= fun _ => .ok ()) = x := by
  cases x <;> rfl

theorem forget_eq_ok_iff {x : Except ε α} : x.map (fun _ => ()) = .ok () ↔ x.isOk := by
  cases x with
  | error e => exact ⟨nofun, nofun⟩
  | ok a => exact ⟨fun _ => rfl, fun _ => rfl⟩

theorem isOk_mapM {f : α → Except ε β} {xs : List α} (done : ∀ x ∈ xs, (f x).isOk) : (xs.mapM f).isOk := by
  induction xs with
  | nil => rfl
  | cons x rest ih =>
    obtain ⟨head, later⟩ := List.forall_mem_cons.mp done
    obtain ⟨y, first⟩ := exists_of_isOk head
    obtain ⟨ys, others⟩ := exists_of_isOk (ih later)
    rw [List.mapM_cons, first, ok_bind, others]
    rfl

end

/-- The texts that are written for a class between double quotes can be read. -/
structure Interface.Reads (i : Interface) (c : ClassDecl) : Prop where
  signals : ∀ s ∈ c.ordinals.signals, s.signature.reread.isOk ∧ ∀ t ∈ s.paramTypes, (i.qualify (some c) t).reread.isOk
  slots : ∀ n ∈ c.ordinals.methods, n.slot.signature.reread.isOk ∧ n.slot.returnType.reread.isOk ∧
    ∀ t ∈ n.slot.paramTypes, (i.qualify (some c) t).reread.isOk

namespace Descriptor

theorem forget_require (l : Lineage) (cls : Text) (what : Requirement) (names : List Text) (name : Text)
    [Decidable (name ∈ names)] :
    (require l cls what names name).map (fun _ => ()) =
      if name ∈ names then .ok () else .error (.nonconforming l.className what name cls) := by
  have found : (names.findIdx? (· = name)).isSome ↔ name ∈ names := by simp [List.findIdx?_isSome]
  unfold require
  split
  next place there => rw [if_pos (found.mp (by rw [there]; rfl))]; rfl
  next absent => rw [if_neg fun among => by simpa [absent] using found.mpr among]; rfl

theorem isOk_typeIds {types : List Text}
    (read : ∀ t ∈ types, (i.qualify (some c) t).reread.isOk) (registry : Registry) :
    (typeIds i registry c types).isOk := by
  refine isOk_mapM fun t among => ?_
  obtain ⟨text, isText⟩ := exists_of_isOk (read t among)
  rw [isText]
  rfl

/-- Once its texts can be read, binding a class only looks for what it requires. -/
theorem forget_bind (reads : i.Reads c) (registry : Registry) (l : Lineage) :
    (bind i registry c l).map (fun _ => ()) = c.required.forM (l.check c.name) := by
  have opened : (bind i registry c l).map (fun _ => ()) = _ :=
    forget_next fun _ => forget_next fun _ => forget_next fun _ => forget_next fun _ => forget_next fun _ =>
      forget_next fun _ => forget_next fun _ => forget_next fun _ => forget_next fun _ => rfl
  rw [opened, forget_eq_ok_iff.mpr (isOk_mapM fun s among => (reads.signals s among).1),
    forget_eq_ok_iff.mpr (isOk_mapM fun n among => (reads.slots n among).1),
    forget_eq_ok_iff.mpr (isOk_mapM fun n among => (reads.slots n among).2.1),
    forget_eq_ok_iff.mpr (isOk_mapM fun s among => isOk_typeIds (reads.signals s among).2 registry),
    forget_eq_ok_iff.mpr (isOk_mapM fun n among => isOk_typeIds (reads.slots n among).2.2 registry),
    c.required_eq]
  simp only [List.forM_eq_forM, List.forM_append, List.forM_map, forget_mapM, forget_require, forget_unit, bind_assoc,
    ok_bind, bind_ok]
  rfl

/-- Once its texts can be read, a class is bound exactly to the types that have what it requires. -/
theorem isOk_bind_iff (reads : i.Reads c) {registry : Registry} {l : Lineage} :
    (bind i registry c l).isOk ↔ ∀ r ∈ c.required, l.Meets r := by
  rw [← forget_eq_ok_iff, forget_bind reads, l.forM_check]
  cases found : c.required.find? (fun r => ¬ l.Meets r) with
  | none => simpa using found
  | some r =>
    have lacks : ¬ l.Meets r := by simpa using List.find?_some found
    exact ⟨nofun, fun met => absurd (met r (List.mem_of_find?_eq_some found)) lacks⟩

end Descriptor
end Counterpart
