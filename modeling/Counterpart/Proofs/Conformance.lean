import Counterpart.Proofs.Binding

/-!
Which types a class is not bound to. Main statement: binding a class to a type, whatever it is, is refused for its type
exactly if the type lacks something that is required, and the fault names the first thing that is lacking.
-/
namespace Counterpart

theorem Fault.infix_message_nonconforming (type : Text) (what : Requirement) (name cls : Text) :
    name <:+: (Fault.nonconforming type what name cls).message := by
  have between (before after : Text) : name <:+: Text.concat [type, Text.concat [before, name, after], cls] :=
    ⟨type ++ before, after ++ cls, by simp [Text.concat]⟩
  cases what <;> exact between _ _

namespace Session

variable {w : World} {c : ClassDecl} (id : Text) {type : BoundType} {l : Lineage}

/-- Where the types of the unit are registered, a class is bound in the registry that results. -/
theorem outcome_bind_of_registered (accepted : (Draft.ofInterface w.module.interface).check = .ok ())
    (sources : w.module.mode.hasSource) (declared : c ∈ w.module.interface.classes)
    (given : (boundLineage c.name type).outcome w = (.ok l, w)) (registered : (w.module.register w.registry).1.isOk) :
    ∃ registry, (bind id c.name type).outcome w =
      match Descriptor.bind w.module.interface registry c l with
      | .ok d => (.ok (), { w with
          registry
          objects := Keyed.set id { lineage := w.module.interface.descriptorLineage c, state := .descriptor d } w.objects })
      | .error e => (.error e, { w with registry }) := by
  have wellFormed := Draft.wellFormed_of_check accepted
  have distinct : (w.module.interface.classes.map (·.name)).Nodup := wellFormed.names.of_append_left.of_append_left
  have defined : w.module.definition? (c.name ++ "SourceAPI") = some (.descriptor c) :=
    Module.definition?_descriptor sources distinct declared
  have found : (Act.lineage (c.name ++ "SourceAPI")).outcome w =
      (.ok (.descriptor c, w.module.interface.descriptorLineage c), w) := by
    simp [Act.lineage, Act.module, Module.lineage, defined, Module.lineageOf?]
  obtain ⟨_, done⟩ := exists_of_isOk registered
  refine ⟨(w.module.register w.registry).2, ?_⟩
  simp only [bind, Act.registerTypes, Act.module, Act.keep, Act.outcome_bind, given, found, Act.outcome_get,
    Act.outcome_set, Act.outcome_modify, Act.outcome_of, Act.outcome_pure, done]
  cases Descriptor.bind w.module.interface (w.module.register w.registry).2 c l <;> rfl

/-- A class of a sound module is refused to be bound to a type exactly if the type lacks something that is required, and
the fault names the first thing that it lacks. -/
theorem bind_refused_iff (accepted : (Draft.ofInterface w.module.interface).check = .ok ())
    (sources : w.module.mode.hasSource) (declared : c ∈ w.module.interface.classes) (sound : w.module.isSound)
    (given : (boundLineage c.name type).outcome w = (.ok l, w)) (registered : (w.module.register w.registry).1.isOk) :
    ((∃ e, ((bind id c.name type).outcome w).1 = .error e ∧ e.kind = .type) ↔ ∃ r ∈ c.required, ¬ l.Meets r) ∧
    (∀ r, c.required.find? (fun r => ¬ l.Meets r) = some r →
      ((bind id c.name type).outcome w).1 = .error (.nonconforming l.className r.1 r.2 c.name) ∧
        r.2 <:+: (Fault.nonconforming l.className r.1 r.2 c.name).message) ∧
    ((∀ r ∈ c.required, l.Meets r) → ((bind id c.name type).outcome w).1 = .ok ()) := by
  obtain ⟨registry, bound⟩ := outcome_bind_of_registered id accepted sources declared given registered
  have looked := (Descriptor.forget_bind (Interface.reads_of_isSound sound declared) registry l).trans (l.forM_check c.name c.required)
  have settled : ((bind id c.name type).outcome w).1 =
      (Descriptor.bind w.module.interface registry c l).map fun _ => () := by
    rw [bound]
    cases Descriptor.bind w.module.interface registry c l <;> rfl
  rw [settled, looked]
  cases found : c.required.find? (fun r => ¬ l.Meets r) with
  | some r =>
    have lacking : ∃ r ∈ c.required, ¬ l.Meets r :=
      ⟨r, List.mem_of_find?_eq_some found, by simpa using List.find?_some found⟩
    refine ⟨⟨fun _ => lacking, fun _ => ⟨_, rfl, rfl⟩⟩, ?_, fun met => ?_⟩
    · rintro _ ⟨⟩
      exact ⟨rfl, Fault.infix_message_nonconforming _ _ _ _⟩
    · obtain ⟨r, among, lacks⟩ := lacking
      exact absurd (met r among) lacks
  | none =>
    have met : ∀ r ∈ c.required, l.Meets r := by simpa using found
    refine ⟨⟨?_, ?_⟩, nofun, fun _ => rfl⟩
    · rintro ⟨e, failed, -⟩
      cases failed
    · rintro ⟨r, among, lacks⟩
      exact absurd (met r among) lacks

def tankUnit : Module where
  interface := { classes := [tank "drain"] }

/-- A type with a property and its change signal, but nothing that sets it. -/
def barrel : Sketch where
  name := "Barrel"
  properties? := some ["level"]
  members := [("levelChanged", .signal []), ("setLevel", .value .none)]

theorem bind_refused_iff_barrel :
    tankUnit.isSound ∧
      ((bind "d" "Tank" (.sketched [barrel])).outcome { module := tankUnit }).1 =
        .error (.nonconforming "Barrel" .setter "setLevel" "Tank") ∧
      ((bind "d" "Tank" (.implemented none)).outcome { module := tankUnit }).1 = .ok () := by
  have accepted : (Draft.ofInterface tankUnit.interface).check = .ok () := rfl
  have sound : tankUnit.isSound := by decide +kernel
  have registered : (tankUnit.register {}).1.isOk := by decide +kernel
  have binds (type : BoundType) {l : Lineage}
      (given : (boundLineage (tank "drain").name type).outcome { module := tankUnit } = (.ok l, { module := tankUnit })) :=
    bind_refused_iff "d" accepted rfl (by decide) sound given registered
  have refused := binds (.sketched [barrel]) rfl
  have conforms := binds (.implemented none) rfl
  exact ⟨sound, (refused.2.1 (.setter, "setLevel") (by decide +kernel)).1, conforms.2.2 (by decide +kernel)⟩

end Session
end Counterpart
