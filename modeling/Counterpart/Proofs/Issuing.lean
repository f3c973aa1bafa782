import Counterpart.Proofs.Following
import Counterpart.Session.Run

/-!
Replicas that are made and used in any order. A step changes no more than the replica that it is about, so that what
holds of one replica does not depend on the others.
-/
namespace Counterpart.Session

variable {c : ClassDecl} {i : Interface} {l : Lineage} {m : Module} {node? : Option Text} {r : Replica}
variable {id name owner cls : Text} {α β : Type} {w : World}

/-! ## Steps -/

def Step.replica? : Step → Option Text
  | .replica id .. | .call id .. | .setProperty id .. | .setNode id _ => some id
  | _ => none

def Step.made? : Step → Option Text
  | .replica id .. => some id
  | _ => none

/-- The step makes a replica, or uses one by the name of a member, and no class has an enum of that name. -/
def Step.isUse (m : Module) : Step → Bool
  | .call _ name _ => name.isAsciiName && name ≠ "node" && !m.interface.classes.any (·.hasEnum name)
  | step => step.replica?.isSome

theorem Step.about_of_isUse {step : Step} (use : step.isUse m) : step.replica?.isSome := by
  cases step <;> first | rfl | exact use

/-- The step hands a value to a replica with so many entries, for one of them. -/
def Step.Sets (m : Module) (l : Lineage) (entries : Nat) (k : Nat) (v : Value) : Step → Prop
  | .setProperty _ index d => index.toPosition "list" entries = .ok k ∧ d.eval m = .ok v
  | .call _ name args => l.member? name = some (.method .update) ∧
      ∃ index, Datum.evalAll m args = .ok [index, v] ∧ index.toPosition "list" entries = .ok k
  | _ => False

def World.replica? (w : World) (id : Text) : Option (Lineage × Replica) :=
  match Keyed.get? id w.objects with
  | some o =>
    match o.state with
    | .replica r => some (o.lineage, r)
    | _ => none
  | none => none

def World.OnlyReplicas (w : World) : Prop := ∀ id o, Keyed.get? id w.objects = some o → ∃ r, o.state = .replica r

/-- What a use of a replica does to it, and what is sent. The use hands over values for entries, if any. -/
inductive Moves (sets : Nat → Value → Prop) (r : Replica) : Replica → List (Text × Invocation) → Prop
  | kept (idle : ∀ k v, sets k v → r.values.length ≤ k) : Moves sets r r []
  | issued {node : Text} {kind : RequestKind} {index : Int} {args : List Value} (idle : ∀ k v, ¬ sets k v)
    (attached : r.node? = some node) :
    Moves sets r { r with issued := r.issued + 1 } [(node, ⟨kind, index, args, r.issued⟩)]
  | updated {k : Nat} {v : Value} (set : ∀ k' v', sets k' v' ↔ k' = k ∧ v' = v) (inside : k < r.values.length) :
    Moves sets r { r with values := r.values.set k v } []
  | attached {node? : Option Text} (idle : ∀ k v, ¬ sets k v) : Moves sets r { r with node? } []

structure Leaves (id : Text) (o : Instance) (w after : World) (r : Replica) (sent : List (Text × Invocation)) :
    Prop where
  module : after.module = w.module
  objects : after.objects = Keyed.set id { o with state := .replica r } w.objects
  sent : after.sent = w.sent ++ sent

/-! ## Methods -/

/-- The action changes no object and sends nothing. -/
def Act.Quiet {α : Type} (x : Act α) : Prop :=
  ∀ w, (x.outcome w).2.module = w.module ∧ (x.outcome w).2.objects = w.objects ∧ (x.outcome w).2.sent = w.sent

theorem Act.Quiet.bind {x : Act α} {next : α → Act β} (first : x.Quiet) (rest : ∀ a, (next a).Quiet) :
    (x >>= next).Quiet := by
  intro w
  have done := first w
  rw [outcome_bind]
  generalize x.outcome w = outcome at done ⊢
  obtain ⟨_ | a, after⟩ := outcome
  · exact done
  · obtain ⟨module, objects, sent⟩ := rest a after
    exact ⟨module.trans done.1, objects.trans done.2.1, sent.trans done.2.2⟩

theorem Act.quiet_of (x : Except Fault α) : (of x).Quiet := fun w => by simp

theorem quiet_valueAs (r : Replica) (index : Value) (expected? : Option ValueClass) (name : Text) :
    (valueAs r index expected? name).Quiet := by
  unfold valueAs
  split
  · exact .bind (fun w => ⟨rfl, rfl, rfl⟩) fun m => .bind (fun w => ⟨rfl, rfl, rfl⟩) fun w =>
      .bind (fun w => ⟨rfl, rfl, rfl⟩) fun _ => Act.quiet_of _
  · exact fun w => ⟨rfl, rfl, rfl⟩

section

variable {o : Instance} (there : Keyed.get? id w.objects = some o) (state : o.state = .replica r)

include there state

theorem leaves_of_same {after : World} (module : after.module = w.module) (objects : after.objects = w.objects)
    (sent : after.sent = w.sent) : Leaves id o w after r [] where
  module := module
  objects := by
    have same : ({ o with state := .replica r } : Instance) = o := by rw [← state]
    rw [same, Keyed.set_self there, objects]
  sent := by rw [sent, List.append_nil]

theorem leaves_request {sets : Nat → Value → Prop} (idle : ∀ k v, ¬ sets k v) (kind : RequestKind) (index : Int)
    (args : List Value) (returnType? : Option Text) :
    ∃ r' sent, Leaves id o w ((request id o r kind index (.tuple args) returnType?).outcome w).2 r' sent ∧
      Moves sets r r' sent := by
  cases attached : r.node? with
  | none =>
    refine ⟨r, [], leaves_of_same there state ?_ ?_ ?_, .kept fun k v set => absurd set (idle k v)⟩ <;>
      simp [request, attached]
  | some node =>
    refine ⟨{ r with issued := r.issued + 1 }, [(node, ⟨kind, index, args, r.issued⟩)], ?_, .issued idle attached⟩
    cases returnType? <;> constructor <;>
      simp [request, attached, Value.toItems, Act.issue, Replica.issue, Act.keepReplica, Act.keep, Act.openReply]

theorem leaves_update (index v : Value) :
    ∃ r' sent, Leaves id o w ((update id o r index v).outcome w).2 r' sent ∧
      Moves (fun k v' => v' = v ∧ index.toPosition "list" r.values.length = .ok (k : Int)) r r' sent := by
  cases position : index.toPosition "list" r.values.length with
  | error e =>
    refine ⟨r, [], leaves_of_same there state ?_ ?_ ?_, .kept (by simp)⟩ <;> simp [update, position]
  | ok place =>
    by_cases outside : place < 0 ∨ r.values.length ≤ place
    · refine ⟨r, [], ?_, .kept fun k v' set => ?_⟩
      · constructor <;> simp [update, position, Replica.update, outside, Act.warn, Act.keepReplica, Act.keep]
      · obtain rfl : place = k := Except.ok.inj set.2
        omega
    · obtain ⟨k, rfl⟩ := Int.eq_ofNat_of_zero_le (by omega : 0 ≤ place)
      have updated : r.update k v = (true, { r with values := r.values.set k v }, []) := by
        rw [Replica.update, if_neg outside, Int.toNat_natCast]
      refine ⟨{ r with values := r.values.set k v }, [], ?_, .updated (fun k' v' => ?_) (by omega)⟩
      · constructor <;> simp [update, position, updated, Act.warn, Act.keepReplica, Act.keep]
      · rw [Except.ok.injEq, Int.ofNat_inj, and_comm, eq_comm]

theorem leaves_runReplicaMethod (function : Text) (args : List Value) (method : Method) :
    ∃ r' sent, Leaves id o w ((runReplicaMethod id o r function args method).outcome w).2 r' sent ∧
      Moves (fun k v => method = .update ∧
        ∃ index, args = [index, v] ∧ index.toPosition "list" r.values.length = .ok (k : Int)) r r' sent := by
  cases method with
  | cached ordinal expected property =>
    have quiet : (runReplicaMethod id o r function args (.cached ordinal expected property)).Quiet :=
      .bind (Act.quiet_of _) fun _ => .bind (fun w => ⟨rfl, rfl, rfl⟩) fun m => .bind (Act.quiet_of _) fun _ =>
        .bind (quiet_valueAs _ _ _ _) fun v w => ⟨rfl, rfl, rfl⟩
    obtain ⟨module, objects, sent⟩ := quiet w
    exact ⟨r, [], leaves_of_same there state module objects sent, .kept (by simp)⟩
  | write ordinal param =>
    cases check : checkArguments function [param] args with
    | error e => refine ⟨r, [], leaves_of_same there state ?_ ?_ ?_, .kept (by simp)⟩ <;> simp [runReplicaMethod, check]
    | ok _ =>
      simpa [runReplicaMethod, check] using leaves_request there state (by simp) .writeProperty ordinal args none
  | invoke ordinal params returnType? =>
    cases check : checkArguments function params args with
    | error e => refine ⟨r, [], leaves_of_same there state ?_ ?_ ?_, .kept (by simp)⟩ <;> simp [runReplicaMethod, check]
    | ok _ =>
      simpa [runReplicaMethod, check] using leaves_request there state (by simp) .invokeMethod ordinal args returnType?
  | update =>
    cases check : checkArguments function ["index", "value"] args with
    | error e =>
      refine ⟨r, [], leaves_of_same there state ?_ ?_ ?_, .kept ?_⟩
      iterate 3 simp [runReplicaMethod, check]
      rintro k v ⟨-, index, rfl, -⟩
      simp [checkArguments] at check
    | ok _ =>
      obtain ⟨index, v, rfl⟩ : ∃ index v, args = [index, v] := by
        rcases args with _ | ⟨index, _ | ⟨v, _ | ⟨_, _⟩⟩⟩ <;> simp [checkArguments] at check ⊢
      have done := leaves_update there state index v
      simpa [runReplicaMethod, check, argument, and_comm, eq_comm] using done
  | _ => exact ⟨r, [], leaves_of_same there state rfl rfl rfl, .kept (by simp)⟩

theorem leaves_take (inner : Step → Act Answer) {step : Step} (about : step.replica? = some id)
    (use : step.made? = none) :
    ∃ r' sent, Leaves id o w ((takeObjectStep inner step).outcome w).2 r' sent ∧
      Moves (step.Sets w.module o.lineage r.values.length) r r' sent := by
  have same : Leaves id o w w r [] := leaves_of_same there state rfl rfl rfl
  cases step <;> cases about
  case replica => cases use
  case call name args =>
    simp only [takeObjectStep, callMember, Act.outcome_bind, Act.outcome_object w there]
    cases found : o.lineage.lookup? name with
    | none =>
      refine ⟨r, [], by simpa [Act.found, found] using same, .kept ?_⟩
      simp [Step.Sets, Lineage.member?, found]
    | some bound =>
      obtain ⟨owner, member⟩ := bound
      have evaluated : (Act.evalAll args).outcome w = (Datum.evalAll w.module args, w) := by
        simp [Act.evalAll, Act.module]
      simp only [Act.outcome_found w found, evaluated]
      cases values : Datum.evalAll w.module args with
      | error e => exact ⟨r, [], same, .kept (by simp [Step.Sets, values])⟩
      | ok vs =>
        have sets : ∀ k v, Step.Sets w.module o.lineage r.values.length k v (.call id name args) ↔
            member = .method .update ∧
              ∃ index, vs = [index, v] ∧ index.toPosition "list" r.values.length = .ok (k : Int) := by
          simp [Step.Sets, Lineage.member?, found, values]
        cases member with
        | method method =>
          obtain ⟨r', sent, leaves, moves⟩ :=
            leaves_runReplicaMethod there state (Text.concat [owner, ".", name]) vs method
          refine ⟨r', sent, by simpa [runMethod, state] using leaves, ?_⟩
          convert moves using 3 with k v
          simpa using sets k v
        | signal types => exact ⟨r, [], same, .kept (by simp [sets])⟩
        | value v => exact ⟨r, [], same, .kept (by simp [sets])⟩
        | _ => exact ⟨r, [], same, .kept (by simp [sets])⟩
  case setProperty index d =>
    have found : (Act.replica id "set_property").outcome w = (.ok (o, r), w) := by
      simp [Act.replica, Act.outcome_object w there, state]
    have evaluated : (Act.eval d).outcome w = (d.eval w.module, w) := by simp [Act.eval, Act.module]
    simp only [takeObjectStep, Act.outcome_bind, found, evaluated]
    cases value : d.eval w.module with
    | error e => exact ⟨r, [], same, .kept (by simp [Step.Sets, value])⟩
    | ok v =>
      obtain ⟨r', sent, leaves, moves⟩ := leaves_update there state index v
      refine ⟨r', sent, leaves, ?_⟩
      convert moves using 3 with k v'
      simp [Step.Sets, value, and_comm, eq_comm]
  case setNode node? =>
    refine ⟨{ r with node? }, [], ?_, .attached (by simp [Step.Sets])⟩
    constructor <;> simp [takeObjectStep, Act.outcome_object w there, giveNode, state, Act.keepReplica, Act.keep]

end

/-! ## Steps of a session -/

/-- A replica that is made has the start values of its class and has issued nothing; otherwise no object changes. -/
theorem makeReplica_cases (id : Text) (c : ClassDecl) (l : Lineage) (node? : Option Text) (name : Text) (w : World) :
    ((makeReplica id c l node? name).outcome w).2.module = w.module ∧
      ((makeReplica id c l node? name).outcome w).2.sent = w.sent ∧
      ((∃ e, ((makeReplica id c l node? name).outcome w).1 = .error e ∧
          ((makeReplica id c l node? name).outcome w).2.objects = w.objects) ∨
        ∃ start, w.module.startValues c = .ok start ∧
          ((makeReplica id c l node? name).outcome w).2.objects =
            Keyed.set id ⟨l, .replica { Replica.create c.name name node? with values := start }, {}, none⟩
              w.objects) := by
  simp only [makeReplica, Act.registerTypes, Act.module, Act.outcome_bind, Act.outcome_get, Act.outcome_set,
    Act.outcome_of, Act.outcome_pure]
  cases (w.module.register w.registry).1 with
  | error e => simp
  | ok _ =>
    cases start : w.module.startValues c with
    | error e => simp [start]
    | ok values => simp [start, Act.keep]

theorem Act.outcome_then (x : Act α) (b : β) (w : World) :
    ((x >>= fun _ => pure b).outcome w).2 = (x.outcome w).2 := by
  rw [outcome_bind]
  rcases x.outcome w with ⟨_ | _, _⟩ <;> rfl

theorem take_of_replica? {step : Step} (about : step.replica?.isSome) (inner : Step → Act Answer) :
    take inner step = takeObjectStep inner step := by
  cases step <;> first | rfl | cases about

theorem replica?_eq_some_iff :
    w.replica? id = some (l, r) ↔ ∃ o, Keyed.get? id w.objects = some o ∧ o.lineage = l ∧ o.state = .replica r := by
  unfold World.replica?
  constructor
  · intro found
    split at found
    next o there =>
      split at found
      next state =>
        cases found
        exact ⟨o, there, rfl, state⟩
      next => cases found
    next => cases found
  · rintro ⟨o, there, rfl, state⟩
    simp [there, state]

theorem exists_of_made? {step : Step} (makes : step.made? = some id) :
    ∃ cls node? name, step = .replica id cls node? name := by
  cases step <;> cases makes
  exact ⟨_, _, _, rfl⟩

theorem made?_eq_replica? {step : Step} (makes : step.made? ≠ none) : step.made? = step.replica? := by
  cases step <;> first | rfl | exact absurd rfl makes

/-- A step changes no more than the replica that it is about. -/
theorem take_changes (only : w.OnlyReplicas) (inner : Step → Act Answer) {step : Step}
    (about : step.replica? = some id) :
    ((takeObjectStep inner step).outcome w).2.module = w.module ∧
      (((takeObjectStep inner step).outcome w).2.objects = w.objects ∨
        ∃ o r, o.state = .replica r ∧
          ((takeObjectStep inner step).outcome w).2.objects = Keyed.set id o w.objects) := by
  by_cases use : step.made? = none
  · cases there : Keyed.get? id w.objects with
    | none =>
      cases step <;> cases about <;>
        simp_all [takeObjectStep, callMember, Act.replica, Act.object, Step.made?]
    | some o =>
      obtain ⟨r, state⟩ := only id o there
      obtain ⟨r', _, leaves, -⟩ := leaves_take there state inner about use
      exact ⟨leaves.module, .inr ⟨_, r', rfl, leaves.objects⟩⟩
  · obtain ⟨cls, node?, name, rfl⟩ := exists_of_made? ((made?_eq_replica? use).trans about)
    have found : (Act.lineage (cls ++ "Replica")).outcome w = (w.module.lineage (cls ++ "Replica"), w) := by
      simp [Act.lineage, Act.module]
    simp only [takeObjectStep, Act.outcome_bind, found]
    rcases w.module.lineage (cls ++ "Replica") with e | ⟨definition, l⟩
    · simp
    · cases definition with
      | replica c =>
        obtain ⟨module, -, made⟩ := makeReplica_cases id c l node? name w
        rw [Act.outcome_then]
        rcases made with ⟨_, -, same⟩ | ⟨start, -, set⟩
        · exact ⟨module, .inl same⟩
        · exact ⟨module, .inr ⟨_, _, rfl, set⟩⟩
      | _ => simp

theorem advance_frame (only : w.OnlyReplicas) {step : Step} (about : step.replica? = some id) :
    (advance w step).2.OnlyReplicas ∧ (advance w step).2.module = w.module ∧
      ∀ other ≠ id, (advance w step).2.replica? other = w.replica? other := by
  rw [advance_eq (take_of_replica? (by simp [about]))]
  obtain ⟨module, same | ⟨o, r, state, set⟩⟩ := take_changes only (takeWithin (w.depth + 1)) about
  · exact ⟨fun other o there => only other o (same ▸ there), module, fun other _ => by simp [World.replica?, same]⟩
  · refine ⟨fun other o' there => ?_, module, fun other different => ?_⟩
    · simp only [set] at there
      by_cases same : other = id
      · rw [same, Keyed.get?_set_self] at there
        cases there
        exact ⟨r, state⟩
      · exact only other o' (by rwa [Keyed.get?_set_of_ne same] at there)
    · simp [World.replica?, set, Keyed.get?_set_of_ne different]

theorem advance_use (clear : w.sent = []) {step : Step} (about : step.replica? = some id)
    (use : step.made? = none) (there : w.replica? id = some (l, r)) :
    ∃ r' sent, Moves (step.Sets w.module l r.values.length) r r' sent ∧
      (advance w step).1.sent = sent.map (fun request => sentTo request.1 request.2) ∧
      (advance w step).2.replica? id = some (l, r') := by
  obtain ⟨o, object, rfl, state⟩ := replica?_eq_some_iff.1 there
  obtain ⟨r', sent, leaves, moves⟩ := leaves_take object state (takeWithin (w.depth + 1)) about use
  rw [advance_eq (take_of_replica? (by simp [about]))]
  refine ⟨r', sent, moves, by simp [leaves.sent, clear],
    replica?_eq_some_iff.2 ⟨{ o with state := .replica r' }, ?_, rfl, rfl⟩⟩
  simp only [leaves.objects, Keyed.get?_set_self]

/-! ## Runs -/

def World.after (w : World) (steps : List Step) : World := steps.foldl (fun w step => (advance w step).2) w

def World.sentBy (id : Text) : World → List Step → List Sent
  | _, [] => []
  | w, step :: rest =>
    (if step.replica? = some id then (advance w step).1.sent else []) ++ World.sentBy id (advance w step).2 rest

/-- What does not change while a replica is used: the module, the class of the replica and the number of its
entries. -/
structure Lives (m : Module) (id : Text) (l : Lineage) (entries : Nat) (w : World) (r : Replica) : Prop where
  module : w.module = m
  only : w.OnlyReplicas
  clear : w.sent = [] ∧ w.events = [] ∧ w.log = []
  there : w.replica? id = some (l, r)
  entries : r.values.length = entries

section

variable {entries : Nat}

/-- A step after which the replica has issued what it sent, and has the values that it was handed. -/
theorem Lives.step (lives : Lives m id l entries w r) {step : Step} (about : step.replica?.isSome)
    (once : step.made? ≠ some id) :
    ∃ r', Lives m id l entries (advance w step).2 r' ∧
      (if step.replica? = some id then (advance w step).1.sent else []).map (·.sequence) =
        (List.range' r.issued (r'.issued - r.issued)).map (fun n => .integer n) ∧ r.issued ≤ r'.issued ∧
      (∀ k v, step.replica? = some id → step.Sets m l entries k v → k < entries → r'.values = r.values.set k v) ∧
      ((∀ k v, step.replica? = some id → step.Sets m l entries k v → entries ≤ k) → r'.values = r.values) := by
  obtain ⟨other, about⟩ := Option.isSome_iff_exists.1 about
  obtain ⟨only, module, frame⟩ := advance_frame lives.only about
  have clear : (advance w step).2.sent = [] ∧ (advance w step).2.events = [] ∧ (advance w step).2.log = [] :=
    ⟨rfl, rfl, rfl⟩
  by_cases same : other = id
  · subst same
    have use : step.made? = none := by
      by_contra makes
      exact once ((made?_eq_replica? makes).trans about)
    obtain ⟨r', sent, moves, told, there⟩ := advance_use lives.clear.1 about use lives.there
    have lives' : ∀ same : r'.values.length = entries, Lives m other l entries (advance w step).2 r' :=
      fun same => ⟨module.trans lives.module, only, clear, there, same⟩
    rw [lives.module, lives.entries] at moves
    rw [if_pos about, told]
    cases moves with
    | kept idle =>
      refine ⟨r, lives' lives.entries, by simp, Nat.le_refl _, fun k v _ sets inside => ?_, fun _ => rfl⟩
      have := idle k v sets
      have := lives.entries
      omega
    | issued idle attached =>
      refine ⟨_, lives' lives.entries, by simp [sentTo], by simp, fun k v _ sets => absurd sets (idle k v),
        fun _ => rfl⟩
    | updated set inside =>
      refine ⟨_, lives' (by simpa using lives.entries), by simp, by simp, fun k v _ sets _ => ?_, fun none => ?_⟩
      · obtain ⟨rfl, rfl⟩ := (set k v).1 sets
        rfl
      · have := none _ _ about ((set _ _).2 ⟨rfl, rfl⟩)
        have := lives.entries
        omega
    | attached idle =>
      exact ⟨_, lives' lives.entries, by simp, by simp, fun k v _ sets => absurd sets (idle k v), fun _ => rfl⟩
  · have other_about : step.replica? ≠ some id := by rw [about]; simpa using same
    refine ⟨r, ⟨module.trans lives.module, only, clear, (frame id (Ne.symm same)).trans lives.there, lives.entries⟩, ?_,
      Nat.le_refl _, fun _ _ about => absurd about other_about, fun _ => rfl⟩
    simp [other_about]

theorem Lives.run (lives : Lives m id l entries w r) {steps : List Step}
    (uses : ∀ step ∈ steps, step.replica?.isSome ∧ step.made? ≠ some id) :
    (∃ r', Lives m id l entries (w.after steps) r') ∧
      (w.sentBy id steps).map (·.sequence) =
        (List.range' r.issued (w.sentBy id steps).length).map (fun n => .integer n) := by
  induction steps generalizing w r with
  | nil => exact ⟨⟨r, lives⟩, rfl⟩
  | cons step rest ih =>
    obtain ⟨about, once⟩ := uses step (by simp)
    obtain ⟨r', lives', sequences, more, -, -⟩ := lives.step about once
    obtain ⟨⟨final, ends⟩, later⟩ := ih lives' fun step among => uses step (by simp [among])
    refine ⟨⟨final, ends⟩, ?_⟩
    have count := congrArg List.length sequences
    simp only [List.length_map, List.length_range'] at count
    rw [World.sentBy, List.map_append, sequences, later, List.length_append, count, ← List.map_append,
      ← List.range'_append_1]
    congr 4
    omega

end

/-- What a replica finds under a name was bound by its class, but for the function that takes values in. -/
theorem bound_of_lookup? {member : Member} (found : (i.replicaLineage c).lookup? name = some (owner, member)) :
    (name, member) ∈ i.replicaBindings c ∨ (name = "set_property" ∧ member = .method .update) := by
  simp only [Interface.replicaLineage, Lineage.replicaBase, Lineage.lookup?, List.findSome?_cons] at found
  cases own : Keyed.get? name (i.replicaLayer c).members with
  | some bound =>
    rw [Interface.replicaLayer, Keyed.get?_ofList] at own
    simp only [Interface.replicaLayer, Keyed.get?_ofList, own] at found
    cases found
    exact .inl (List.mem_reverse.1 (Keyed.mem_of_get? own))
  | none =>
    rw [own] at found
    by_cases same : "set_property" = name
    · simp [Layer.replicaBase, Keyed.get?, same] at found
      exact .inr ⟨same.symm, found.2.symm⟩
    · simp [Layer.replicaBase, Layer.root, Keyed.get?, same] at found

theorem eq_of_unreserved {word : Text} (closed : word.getLast? ≠ some '_')
    (same : name.unreserved = word) : name = word := by
  unfold Text.unreserved at same
  split at same
  · subst same
    exact absurd List.getLast?_concat closed
  · exact same

/-- No member of a sound class takes the place of the function that takes values in. -/
theorem notMem_replicaBindings (sound : m.isSound) (declared : c ∈ m.interface.classes) :
    ("set_property" : Text) ∉ Keyed.keys (m.interface.replicaBindings c) := by
  have free : ("set_property" : Text) ∉ Interface.memberNames c := fun among =>
    (Module.soundSides sound declared).members _ among (by decide +kernel)
  have closed : ("set_property" : Text).getLast? ≠ some '_' := by decide +kernel
  intro bound
  obtain ⟨⟨name, member⟩, bound, rfl⟩ := List.mem_map.1 bound
  simp only [Interface.memberNames, List.mem_append, List.mem_map, List.mem_flatMap, not_or] at free
  obtain ⟨⟨⟨enums, signals⟩, properties⟩, slots⟩ := free
  simp only [Interface.replicaBindings, List.mem_append, Interface.aliasBindings, Interface.signalBindings,
    List.mem_map, List.mem_flatMap, Interface.replicaPropertyBindings, Interface.replicaSlotBinding] at bound
  rcases bound with ((⟨e, among, same⟩ | ⟨n, among, same⟩) | ⟨n, among, same⟩) | ⟨n, among, same⟩
  · exact enums ⟨e, among, congrArg Prod.fst same⟩
  · exact signals ⟨n, among, congrArg Prod.fst same⟩
  · have there : n.property ∈ c.properties := map_property_ordinals c ▸ List.mem_map_of_mem among
    refine properties ⟨n.property, there, ?_⟩
    split at same <;> simp at same ⊢
    · exact same.imp (fun same => (eq_of_unreserved closed same.1.symm).symm) (·.1)
    · exact .inl (eq_of_unreserved closed same.1.symm).symm
  · have there : n.slot ∈ c.slots := map_slot_ordinals c ▸ List.mem_map_of_mem among
    exact slots ⟨n.slot, there, eq_of_unreserved closed (congrArg Prod.fst same)⟩

/-- A getter reads an entry for a property of the class. -/
theorem ordinal_of_cached {property : Text} {ordinal : Nat} {expected : Hint}
    (found : (i.replicaLineage c).lookup? name = some (owner, .method (.cached ordinal expected property))) :
    ordinal < c.properties.length := by
  rcases bound_of_lookup? found with bound | ⟨-, other⟩
  · simp only [Interface.replicaBindings, List.mem_append, Interface.aliasBindings, Interface.signalBindings,
      List.mem_map, List.mem_flatMap, Interface.replicaPropertyBindings, Interface.replicaSlotBinding] at bound
    rcases bound with ((⟨e, _, same⟩ | ⟨n, _, same⟩) | ⟨n, numbered, same⟩) | ⟨n, _, same⟩
    · simp at same
    · simp at same
    · obtain ⟨place, among, rfl⟩ := List.mem_map.1 numbered
      have inside := List.snd_lt_of_mem_zipIdx among
      split at same
      simp at same
      omega
    · simp at same
  · cases other

/-- The name stands for a request that takes the arguments. -/
def Lineage.Asks (l : Lineage) (name : Text) (args : List Value) : Prop :=
  match l.member? name with
  | some (.method (.write _ _)) => args.length = 1
  | some (.method (.invoke _ params _)) => args.length = params.length
  | _ => False

theorem advance_detached (clear : w.sent = [] ∧ w.events = [] ∧ w.log = []) (there : w.replica? id = some (l, r))
    (detached : r.node? = none) {args : List Datum}
    {vs : List Value} (values : Datum.evalAll w.module args = .ok vs) (asks : Lineage.Asks l name vs) :
    advance w (.call id name args) = (⟨.error (.fault (.detached r.name)), [], [], []⟩, w) := by
  obtain ⟨o, object, rfl, state⟩ := replica?_eq_some_iff.1 there
  have refused : (takeObjectStep (takeWithin (w.depth + 1)) (.call id name args)).outcome w =
      (.error (.detached r.name), w) := by
    cases found : o.lineage.lookup? name with
    | none => simp [Lineage.Asks, Lineage.member?, found] at asks
    | some bound =>
      obtain ⟨owner, member⟩ := bound
      simp only [Lineage.Asks, Lineage.member?, found, Option.map_some] at asks
      simp only [takeObjectStep, callMember, Act.outcome_bind, Act.outcome_object w object, Act.outcome_found w found,
        Act.evalAll, Act.module, Act.outcome_get, Act.outcome_pure, Act.outcome_of, values]
      split at asks
      next ordinal param bound =>
        cases bound
        simp [runMethod, state, runReplicaMethod, checkArguments, asks, request, detached]
      next ordinal params returnType? bound =>
        cases bound
        simp [runMethod, state, runReplicaMethod, checkArguments, asks, request, detached]
      next => exact asks.elim
  rw [advance_eq (take_of_replica? rfl), refused]
  obtain ⟨sent, events, log⟩ := clear
  obtain ⟨_⟩ := w
  simp_all [Except.mapError]

/-- What holds of a replica of a class at a moment and for the step that is taken next. Its cache has so many entries; a
getter reads one if there are as many as properties. A request without a node is refused and changes nothing. The
cache changes only where it is handed a value for one of its entries. -/
structure Keeps (m : Module) (id : Text) (c : ClassDecl) (entries : Nat) (w : World) (r : Replica) : Prop where
  there : w.replica? id = some (m.interface.replicaLineage c, r)
  size : r.values.length = entries
  read : entries = c.properties.length → ∀ name owner ordinal expected property,
    (m.interface.replicaLineage c).lookup? name = some (owner, .method (.cached ordinal expected property)) →
    ∃ v, r.values[ordinal]? = some v
  detached : r.node? = none → ∀ name args vs, Datum.evalAll m args = .ok vs →
    Lineage.Asks (m.interface.replicaLineage c) name vs →
    ∃ e : Fault, e.kind = .replica ∧ advance w (.call id name args) = (⟨.error (.fault e), [], [], []⟩, w)
  changes : ∀ step : Step, step.isUse m → step.made? ≠ some id →
    ∃ r', (advance w step).2.replica? id = some (m.interface.replicaLineage c, r') ∧
      (∀ k v, step.replica? = some id → step.Sets m (m.interface.replicaLineage c) entries k v → k < entries →
        r'.values = r.values.set k v) ∧
      ((∀ k v, step.replica? = some id → step.Sets m (m.interface.replicaLineage c) entries k v → entries ≤ k) →
        r'.values = r.values)

theorem Lives.keeps {entries : Nat}
    (lives : Lives m id (m.interface.replicaLineage c) entries w r) : Keeps m id c entries w r where
  there := lives.there
  size := lives.entries
  read := by
    intro enough name owner ordinal expected property found
    have inside := ordinal_of_cached found
    rw [← enough, ← lives.entries] at inside
    exact ⟨_, List.getElem?_eq_getElem inside⟩
  detached := by
    intro detached name args vs values asks
    exact ⟨_, rfl, advance_detached lives.clear lives.there detached (lives.module ▸ values) asks⟩
  changes := by
    intro step use once
    obtain ⟨r', lives', -, -, set, kept⟩ := lives.step (Step.about_of_isUse use) once
    exact ⟨r', lives'.there, set, kept⟩

theorem definition_of_lineage (known : m.lineage name = .ok (.replica c, l)) :
    m.definition? name = some (.replica c) ∧ l = m.interface.replicaLineage c := by
  unfold Module.lineage at known
  split at known
  next found same =>
    cases known
    obtain ⟨definition, defined, same⟩ := Option.bind_eq_some_iff.1 same
    obtain ⟨l', lineage, same⟩ := Option.map_eq_some_iff.1 same
    cases same
    exact ⟨defined, (Option.some.inj lineage).symm⟩
  next => cases known

/-- A step that makes a replica finds its class, and the replica starts with what the defaults of the class give. -/
theorem objects_of_made {after : World} {inner : Step → Act Answer}
    {answer : Answer} (made : (takeObjectStep inner (.replica id cls node? name)).outcome w = (.ok answer, after)) :
    ∃ c start, w.module.definition? (cls ++ "Replica") = some (.replica c) ∧ w.module.startValues c = .ok start ∧
      after.objects = Keyed.set id ⟨w.module.interface.replicaLineage c,
        .replica { Replica.create c.name name node? with values := start }, {}, none⟩ w.objects := by
  obtain ⟨⟨definition, l⟩, same, found, made⟩ := Act.of_outcome_bind_ok made
  have found : w.module.lineage (cls ++ "Replica") = .ok (definition, l) ∧ w = same := by
    simpa [Act.lineage, Act.module] using found
  obtain ⟨known, rfl⟩ := found
  cases definition with
  | replica c =>
    obtain ⟨defined, rfl⟩ := definition_of_lineage known
    obtain ⟨_, middle, making, done⟩ := Act.of_outcome_bind_ok made
    cases done
    have cases := makeReplica_cases id c (w.module.interface.replicaLineage c) node? name w
    simp only [making, reduceCtorEq, false_and, exists_false, false_or] at cases
    obtain ⟨-, -, start, started, set⟩ := cases
    exact ⟨c, start, defined, started, set⟩
  | _ => simp at made

theorem mem_classes_of_definition? (defined : m.definition? name = some (.replica c)) : c ∈ m.interface.classes := by
  have among := Scope.mem_of_find? defined
  simp only [Module.definitions, List.mem_append, List.mem_map, List.mem_flatMap, Mode.definitions] at among
  rcases among with (⟨_, _, same⟩ | ⟨_, _, same⟩) | ⟨c', declared, side | side⟩
  · simp at same
  · simp at same
  · split at side <;> simp at side
    exact side.2 ▸ declared
  · split at side <;> simp at side

theorem exists_lives_of_made (only : w.OnlyReplicas) (made : (advance w (.replica id cls node? name)).1.answer.isOk) :
    ∃ c start r, w.module.definition? (cls ++ "Replica") = some (.replica c) ∧ w.module.startValues c = .ok start ∧
      Lives w.module id (w.module.interface.replicaLineage c) start.length
        (advance w (.replica id cls node? name)).2 r ∧ r.issued = 0 := by
  obtain ⟨only, module, -⟩ := advance_frame only (rfl : (Step.replica id cls node? name).replica? = some id)
  rw [advance_eq (take_of_replica? rfl)] at made only module ⊢
  cases taken : (takeObjectStep (takeWithin (w.depth + 1)) (.replica id cls node? name)).outcome w with
  | mk result after =>
    simp only [taken] at made only module ⊢
    cases result with
    | error e => cases made
    | ok answer =>
      obtain ⟨c, start, defined, started, set⟩ := objects_of_made taken
      let r := { Replica.create c.name name node? with values := start }
      refine ⟨c, start, r, defined, started, ⟨module, only, ⟨rfl, rfl, rfl⟩, ?_, rfl⟩, rfl⟩
      refine replica?_eq_some_iff.2 ⟨⟨w.module.interface.replicaLineage c, .replica r, {}, none⟩, ?_, rfl, rfl⟩
      rw [set, Keyed.get?_set_self]

theorem after_onlyReplicas (only : w.OnlyReplicas) {steps : List Step} (uses : ∀ step ∈ steps, step.replica?.isSome) :
    (w.after steps).OnlyReplicas ∧ (w.after steps).module = w.module := by
  induction steps generalizing w with
  | nil => exact ⟨only, rfl⟩
  | cons step rest ih =>
    obtain ⟨id, about⟩ := Option.isSome_iff_exists.1 (uses step (by simp))
    obtain ⟨only', module, -⟩ := advance_frame only about
    obtain ⟨onlyAfter, moduleAfter⟩ := ih only' fun step among => uses step (by simp [among])
    exact ⟨onlyAfter, moduleAfter.trans module⟩

/-- In a session of replicas of a sound module, one that was made numbers what it issues from 0 on, and keeps its
entries. There are as many as properties unless a default runs on into the next one or stands for several values. -/
theorem replica_numbers_from_zero {m : Module} {warnings : List DefaultWarning} {before later : List Step}
    {id cls name : Text} {node? : Option Text} (sound : m.isSound) (uses : ∀ step ∈ before ++ later, step.isUse m)
    (once : ∀ step ∈ later, step.made? ≠ some id)
    (made : (advance (World.after { module := m, log := warnings.map .default } before)
      (.replica id cls node? name)).1.answer.isOk) :
    let w := World.after { module := m, log := warnings.map .default } (before ++ [.replica id cls node? name])
    ∃ c start, m.definition? (cls ++ "Replica") = some (.replica c) ∧ m.startValues c = .ok start ∧
      (DefaultExpr.StandAlone m (c.properties.map (m.defaultExpr c)) → start.length = c.properties.length) ∧
      (∀ method, (m.interface.replicaLineage c).member? method = some (.method .update) ↔ method = "set_property") ∧
      (w.sentBy id later).map (·.sequence) =
        (List.range (w.sentBy id later).length).map (fun n => .integer n) ∧
      ∀ earlier rest, later = earlier ++ rest → ∃ r, Keeps m id c start.length (w.after earlier) r := by
  intro w
  have empty : World.OnlyReplicas { module := m, log := warnings.map .default } := by
    simp [World.OnlyReplicas, Keyed.get?]
  have about : ∀ step ∈ before ++ later, step.replica?.isSome := fun step among => Step.about_of_isUse (uses step among)
  obtain ⟨only, module⟩ := after_onlyReplicas empty fun step (among : step ∈ before) => about step (by simp [among])
  have make : w = (advance (World.after { module := m, log := warnings.map .default } before)
      (.replica id cls node? name)).2 := by simp [w, World.after]
  obtain ⟨c, start, r, defined, started, lives, issued⟩ := exists_lives_of_made only made
  rw [module] at defined started lives
  rw [← make] at lives
  refine ⟨c, start, defined, started, fun alone => ?_, fun method => ⟨fun found => ?_, ?_⟩, ?_,
    fun earlier rest split => ?_⟩
  · simpa using DefaultExpr.length_items alone started
  · obtain ⟨⟨owner, member⟩, found, rfl⟩ := Option.map_eq_some_iff.1 found
    obtain bound | ⟨same, -⟩ := bound_of_lookup? found
    · exact absurd rfl (ne_update_of_mem bound)
    · exact same
  · rintro rfl
    rw [Lineage.member?, Interface.lookup?_update (notMem_replicaBindings sound (mem_classes_of_definition? defined))]
    rfl
  · have sequences := (lives.run fun step among => ⟨about step (by simp [among]), once step among⟩).2
    rwa [issued, ← List.range_eq_range'] at sequences
  · obtain ⟨r', lives'⟩ := (lives.run fun step (among : step ∈ earlier) =>
      ⟨about step (by simp [split, among]), once step (by simp [split, among])⟩).1
    exact ⟨r', lives'.keeps⟩

theorem replica_numbers_from_zero_gauge :
    let w := World.after { module := gaugeUnit }
      [.replica "right" "Gauge" (some "n") "", .replica "left" "Gauge" none "Gauge"]
    let later : List Step := [.call "left" "reset" [], .setNode "left" (some "n"), .call "right" "reset" [],
      .call "left" "setLevel" [.plain (.integer 4)], .setProperty "left" (.integer 1) (.plain (.integer 9)),
      .call "left" "reset" []]
    gaugeUnit.isSound ∧ (w.sentBy "left" later).map (·.sequence) = [.integer 0, .integer 1] ∧
      ∃ r, Keeps gaugeUnit "left" gauge 3 (w.after later) r := by
  intro w later
  have sends : (w.sentBy "left" later).length = 2 := by decide +kernel
  have alone : DefaultExpr.StandAlone gaugeUnit (gauge.properties.map (gaugeUnit.defaultExpr gauge)) := by
    decide +kernel
  have uses : ∀ step ∈ [.replica "right" "Gauge" (some "n") ""] ++ later, step.isUse gaugeUnit := by decide +kernel
  have once : ∀ step ∈ later, step.made? ≠ some (Text.ofString "left") := by simp [later, Step.made?]
  obtain ⟨c, start, defined, -, count, -, sequences, keeps⟩ :=
    @replica_numbers_from_zero gaugeUnit [] [.replica "right" "Gauge" (some "n") ""] later "left" "Gauge" "Gauge" none
      (by decide +kernel) uses once (by decide +kernel)
  obtain rfl : c = gauge := by
    have known : gaugeUnit.definition? (Text.ofString "Gauge" ++ Text.ofString "Replica") = some (.replica gauge) := rfl
    cases known.symm.trans defined
    rfl
  have sequences : (w.sentBy "left" later).map (·.sequence) =
      (List.range (w.sentBy "left" later).length).map (fun n => .integer n) := sequences
  rw [sends] at sequences
  have same : start.length = 3 := count alone
  rw [same] at keeps
  exact ⟨by decide +kernel, sequences, keeps later [] (List.append_nil later).symm⟩

end Counterpart.Session
