import Counterpart.Proofs.Defaults
import Counterpart.Proofs.Members

/-!
A replica that is told of every change of a source. It starts with the values of the source if each default is one
value where it stands, and from then on has what the source has, whatever is written to the source.
-/
namespace Counterpart

open Session

variable {c : ClassDecl} {o : Instance} {i : Interface} {l : Lineage} {types : List Text} {args : List Value}
variable {k : Nat} {node? : Option Text} {p : Property} {id name tag : Text} {v stored : Value} {after w : World}

/-! ## Replicas that are told of changes -/

namespace Session

/-- What a replica keeps for the property with an ordinal. -/
def World.cached? (w : World) (replica : Text) (ordinal : Nat) : Option Value :=
  match (Keyed.get? replica w.objects).map Instance.state with
  | some (.replica r) => r.values[ordinal]?
  | _ => none

def Answer.told : Answer → Value
  | .truth b => .truth b
  | _ => .none

/-- Hands the value that a change signal carries to a replica, and notes what the replica answers. -/
def forward (o : Ordinals) (replica : Text) (args : List Value) (tag : Text) : Act Unit :=
  match o.changes.find? (·.name = tag), args with
  | some s, [v] => do
    let answer ← callMember (fun _ _ => pure ()) replica "set_property"
      (pure [.integer (o.propertyForSignal s.ordinal), v])
    Act.note (.received tag [v, answer.told])
  | _, _ => pure ()

/-- Makes a replica and a source of a class, and connects each change signal of the source. -/
def makePair (c : ClassDecl) (l : Lineage) (replica source : Text) (node? : Option Text) (name : Text) : Act Unit := do
  let m ← Act.module
  makeReplica replica c (m.interface.replicaLineage c) node? name
  makeSource source l fun m => m.startProperties c
  c.ordinals.changes.forM fun s => connect source s.name s.name []

def read (c : ClassDecl) (replica source : Text) (p : Property) : Act Answer :=
  callMember (forward c.ordinals replica) source p.name.unreserved (pure [])

def write (c : ClassDecl) (replica source : Text) (p : Property) (v : Value) : Act Answer :=
  callMember (forward c.ordinals replica) source p.setterName (pure [v])

def writeAll (c : ClassDecl) (replica source : Text) (calls : List (Property × Value)) : Act Unit :=
  match calls with
  | [] => return
  | (p, v) :: rest => do
    let _ ← write c replica source p v
    writeAll c replica source rest

/-- The replica has what the source has. -/
def World.Agrees (w : World) (c : ClassDecl) (replica source : Text) : Prop :=
  ∀ k p, c.properties[k]? = some p → ∃ v, (read c replica source p).outcome w = (.ok (.value v), w) ∧
    w.cached? replica k = some v

/-- Whatever is written to the source, the replica has it afterwards. A value that differs is handed over once, and
the replica takes it; one that does not is not handed over. -/
def World.Follows (w : World) (c : ClassDecl) (replica source : Text) : Prop :=
  ∀ calls : List (Property × Value), (∀ call ∈ calls, call.1 ∈ c.properties ∧ call.1.writable) →
    ∃ after, (writeAll c replica source calls).outcome w = (.ok (), after) ∧ after.Agrees c replica source ∧
      ∀ p ∈ c.properties, p.writable → ∀ v, ∃ stored final,
        (read c replica source p).outcome after = (.ok (.value stored), after) ∧
        (write c replica source p v).outcome after = (.ok .nothing, final) ∧
        final.events = after.events ++ if v.equals stored then [] else [.received p.changeName [v, .truth true]]

end Session

def Interface.Implements (i : Interface) (c : ClassDecl) (l : Lineage) : Prop :=
  ∀ name, name ∉ c.slots.map (·.name.unreserved) → l.lookup? name = (i.simpleSourceLineage c).lookup? name

/-- The defaults of a class mean the same in a list as by themselves, and what is written reaches the replica. -/
structure Module.Mirrors (m : Module) (c : ClassDecl) : Prop where
  defaults : DefaultExpr.StandAlone m (c.properties.map (m.defaultExpr c))
  reached : (∃ p ∈ c.properties, p.writable) → ("set_property" : Text) ∉ Keyed.keys (m.interface.replicaBindings c)

/-! ## One call -/

namespace Interface.Implements

variable (implements : i.Implements c l) (distinct : i.MembersDistinct c)

include implements distinct

theorem lookup?_accessor (declared : p ∈ c.properties) :
    l.lookup? p.name.unreserved = some (c.simpleSourceName, .method (.stored p.name)) := by
  have bound : (p.name.unreserved, .method (.stored p.name)) ∈ simpleSourceBindings c :=
    List.mem_append_left _ (List.mem_map.mpr ⟨p, declared, rfl⟩)
  rw [implements _ (distinct.notMem_slots (.inr (List.mem_map_of_mem bound))), distinct.lookup?_simpleSource bound]

theorem lookup?_setter (declared : p ∈ c.properties) (writable : p.writable) : l.lookup? p.setterName =
      some (c.simpleSourceName, .method (.assign p.name.unreserved p.name p.changeName)) := by
  have bound : (p.setterName, .method (.assign p.name.unreserved p.name p.changeName)) ∈ simpleSourceBindings c :=
    List.mem_append_right _ (List.mem_map.mpr ⟨p, List.mem_filter.mpr ⟨declared, writable⟩, rfl⟩)
  rw [implements _ (distinct.notMem_slots (.inr (List.mem_map_of_mem bound))), distinct.lookup?_simpleSource bound]

theorem lookup?_change {s : NumberedSignal} (numbered : s ∈ c.ordinals.signals) :
    l.lookup? s.name = some (c.sourceName, .signal (i.signalTypes c s)) := by
  have bound : s.name ∈ Keyed.keys (i.signalBindings c) := by
    simpa [Keyed.keys, signalBindings] using ⟨s, numbered, rfl⟩
  rw [implements _ (distinct.notMem_slots (.inl bound)), distinct.lookup?_signal numbered]

end Interface.Implements

/-- The change signal of a property leads back to the property. -/
theorem Interface.MembersDistinct.change_of_property (distinct : i.MembersDistinct c)
    (declared : c.properties[k]? = some p) (notifies : p.notifies) :
    ∃ s ∈ c.ordinals.signals, s.name = p.changeName ∧ s.isChange ∧ c.ordinals.propertyForSignal s.ordinal = k ∧
      c.ordinals.changes.find? (·.name = p.changeName) = some s := by
  have heads : (p.changeName, [], some k) ∈ c.signalHeads := by
    refine List.mem_append_left _ (List.mem_map.mpr ⟨(k, p), List.mem_filter.mpr ⟨?_, notifies⟩, rfl⟩)
    exact List.mem_map.mpr ⟨(p, k), List.mem_zipIdx_iff_getElem?.mpr declared, rfl⟩
  obtain ⟨n, place⟩ := List.mem_iff_getElem?.mp heads
  have numbered : c.ordinals.signals[n]? = some ⟨n, p.changeName, [], some k⟩ := by
    simp [ClassDecl.ordinals, place]
  have isSignal := List.mem_of_getElem? numbered
  refine ⟨_, isSignal, rfl, rfl, by simp [Ordinals.propertyForSignal, numbered], ?_⟩
  have isChange : (⟨n, p.changeName, [], some k⟩ : NumberedSignal) ∈ c.ordinals.changes :=
    List.mem_filter.mpr ⟨isSignal, rfl⟩
  have found : (c.ordinals.changes.find? (·.name = p.changeName)).isSome :=
    List.find?_isSome.mpr ⟨_, isChange, by simp⟩
  obtain ⟨s, first⟩ := Option.isSome_iff_exists.mp found
  have named : s.name = p.changeName := by simpa using List.find?_some first
  rw [first, List.inj_on_of_nodup_map distinct.signals
    (List.mem_filter.mp (List.mem_of_find?_eq_some first)).1 isSignal named]

namespace Session

/-- A session has a replica and a source that is connected to it. -/
structure Paired (i : Interface) (c : ClassDecl) (l : Lineage) (replica source : Text) (w : World) (r : Replica)
    (s : Source) : Prop where
  replicaThere : ∃ o, Keyed.get? replica w.objects = some o ∧ o.lineage = i.replicaLineage c ∧ o.state = .replica r
  sourceThere : ∃ o, Keyed.get? source w.objects = some o ∧ o.lineage = l ∧ o.state = .source s ∧
    ∀ n ∈ c.ordinals.changes, o.connections.receivers n.name = [n.name]

section

variable {replica source : Text} {r : Replica} {s : Source}

theorem Paired.cached?_eq (paired : Paired i c l replica source w r s) (k : Nat) :
    w.cached? replica k = r.values[k]? := by
  obtain ⟨o, there, -, state⟩ := paired.replicaThere
  simp [World.cached?, there, state]

theorem Paired.outcome_read (paired : Paired i c l replica source w r s) (distinct : i.MembersDistinct c)
    (implements : i.Implements c l) (declared : p ∈ c.properties)
    (stored : s.value? p.name = some v) : (read c replica source p).outcome w = (.ok (.value v), w) := by
  obtain ⟨o, there, lineage, state, -⟩ := paired.sourceThere
  have found := implements.lookup?_accessor distinct declared
  rw [← lineage] at found
  simp [read, callMember, Act.outcome_object w there, Act.outcome_found w found, runMethod, state, runSourceMethod,
    checkArguments, stored]

/-- A replica whose class leaves that name alone takes in the value of a property that it has. -/
theorem outcome_update (free : ("set_property" : Text) ∉ Keyed.keys (i.replicaBindings c))
    (react : List Value → Text → Act Unit)
    (there : Keyed.get? replica w.objects = some o) (lineage : o.lineage = i.replicaLineage c)
    (state : o.state = .replica r) (inside : k < r.values.length) (v : Value) :
    (callMember react replica "set_property" (pure [.integer k, v])).outcome w =
      (.ok (.truth true), { w with
        objects := Keyed.set replica { o with state := .replica { r with values := r.values.set k v } } w.objects }) := by
  have found := Interface.lookup?_update free
  rw [← lineage] at found
  have updated : r.update k v = (true, { r with values := r.values.set k v }, []) := by
    rw [Replica.update, if_neg (by omega), Int.toNat_natCast]
  simp [callMember, Act.outcome_object w there, Act.outcome_found w found, runMethod, state, runReplicaMethod,
    checkArguments, argument, update, Value.toPosition, Value.integer?, updated, Act.warn, Act.keepReplica, Act.keep]

theorem Paired.outcome_write_of_equal (paired : Paired i c l replica source w r s) (distinct : i.MembersDistinct c)
    (implements : i.Implements c l) (declared : p ∈ c.properties) (writable : p.writable)
    (has : s.value? p.name = some stored) (equal : v.equals stored) :
    (write c replica source p v).outcome w = (.ok .nothing, w) := by
  obtain ⟨o, there, lineage, state, -⟩ := paired.sourceThere
  have found := implements.lookup?_setter distinct declared writable
  rw [← lineage] at found
  have same : s.assign? p.name v = none := by simp [Source.assign?, Source.differs, has, equal]
  simp [write, callMember, Act.outcome_object w there, Act.outcome_found w found, runMethod, state, runSourceMethod,
    checkArguments, argument, same]

theorem outcome_emit (react : List Value → Text → Act Unit) {owner : Text} (there : Keyed.get? id w.objects = some o)
    (found : o.lineage.lookup? name = some (owner, .signal types)) (receivers : o.connections.receivers name = [tag])
    (args : List Value) : (emit react id name args).outcome w = (react args tag).outcome w := by
  simp only [emit, Act.signal, Act.outcome_bind, Act.outcome_object w there, Act.outcome_found w found,
    Act.outcome_pure, receivers, List.forM_eq_forM, List.forM_cons, List.forM_nil]
  rcases (react args tag).outcome w with ⟨_ | _, _⟩ <;> rfl

theorem Paired.outcome_write_of_differs (paired : Paired i c l replica source w r s) (distinct : i.MembersDistinct c)
    (implements : i.Implements c l) (declared : c.properties[k]? = some p)
    (writable : p.writable) (has : s.value? p.name = some stored) (differs : v.equals stored = false)
    (o : Instance) (there : Keyed.get? source w.objects = some o) :
    (write c replica source p v).outcome w =
      (do forward c.ordinals replica [v] p.changeName; return .nothing : Act Answer).outcome
        { w with objects := Keyed.set source { o with state := .source (s.store p.name v) } w.objects } := by
  obtain ⟨o', there', lineage, state, connected⟩ := paired.sourceThere
  cases there.symm.trans there'
  have among := List.mem_of_getElem? declared
  have notifies : p.notifies := by simp_all [Property.notifies, Property.writable]
  obtain ⟨n, numbered, named, isChange, -, -⟩ := distinct.change_of_property declared notifies
  have found := implements.lookup?_setter distinct among writable
  have foundChange := implements.lookup?_change distinct numbered
  have receivers := connected n (List.mem_filter.mpr ⟨numbered, isChange⟩)
  rw [← lineage] at found foundChange
  rw [named] at foundChange receivers
  have after : s.assign? p.name v = some (s.store p.name v) := by simp [Source.assign?, Source.differs, has, differs]
  have emitted := outcome_emit (forward c.ordinals replica)
    (w := { w with objects := Keyed.set source { o with state := .source (s.store p.name v) } w.objects })
    (o := { o with state := .source (s.store p.name v) }) (Keyed.get?_set_self _ _ _) foundChange receivers [v]
  simp [write, callMember, Act.outcome_object w there, Act.outcome_found w found, runMethod, state, runSourceMethod,
    checkArguments, argument, after, Act.keep, emitted]

theorem Paired.value?_of_read (paired : Paired i c l replica source w r s) (distinct : i.MembersDistinct c)
    (implements : i.Implements c l) (declared : p ∈ c.properties)
    (done : (read c replica source p).outcome w = (.ok (.value v), w)) : s.value? p.name = some v := by
  cases stored : s.value? p.name with
  | some u =>
    rw [paired.outcome_read distinct implements declared stored] at done
    cases done
    rfl
  | none =>
    obtain ⟨o, there, lineage, state, -⟩ := paired.sourceThere
    have found := implements.lookup?_accessor distinct declared
    rw [← lineage] at found
    simp [read, callMember, Act.outcome_object w there, Act.outcome_found w found, runMethod, state, runSourceMethod,
      checkArguments, stored] at done

/-- A value that differs is kept by both sides and noted once. -/
theorem Paired.write_of_differs (paired : Paired i c l replica source w r s) (distinct : i.MembersDistinct c)
    (free : ("set_property" : Text) ∉ Keyed.keys (i.replicaBindings c)) (implements : i.Implements c l)
    (apart : replica ≠ source) (declared : c.properties[k]? = some p) (writable : p.writable)
    (has : s.value? p.name = some stored) (inside : k < r.values.length)
    (differs : v.equals stored = false) :
    ∃ after, (write c replica source p v).outcome w = (.ok .nothing, after) ∧
      after.events = w.events ++ [.received p.changeName [v, .truth true]] ∧
      Paired i c l replica source after { r with values := r.values.set k v } (s.store p.name v) := by
  obtain ⟨o, there, lineage, state, connected⟩ := paired.sourceThere
  obtain ⟨o', there', lineage', state'⟩ := paired.replicaThere
  have notifies : p.notifies := by simp_all [Property.notifies, Property.writable]
  obtain ⟨n, -, -, -, back, first⟩ := distinct.change_of_property declared notifies
  rw [paired.outcome_write_of_differs distinct implements declared writable has differs o there]
  have untouched := Keyed.get?_set_of_ne apart { o with state := .source (s.store p.name v) } w.objects
  have updated := outcome_update free (fun _ _ => pure ())
    (w := { w with objects := Keyed.set source { o with state := .source (s.store p.name v) } w.objects })
    (untouched.trans there') lineage' state' inside v
  simp only [forward, first, back, Act.outcome_bind, updated, Act.note, Act.outcome_modify, Act.outcome_pure]
  refine ⟨_, rfl, rfl, ?_, ?_⟩
  · exact ⟨_, Keyed.get?_set_self _ _ _, lineage', rfl⟩
  · refine ⟨{ o with state := .source (s.store p.name v) }, ?_, lineage, rfl, connected⟩
    exact (Keyed.get?_set_of_ne (Ne.symm apart) _ _).trans (Keyed.get?_set_self _ _ _)

/-! ## Any number of calls -/

def Alike (c : ClassDecl) (r : Replica) (s : Source) : Prop :=
  ∀ (k : Nat) (p : Property), c.properties[k]? = some p → ∃ v, r.values[k]? = some v ∧ s.value? p.name = some v

theorem Alike.store (alike : Alike c r s) (distinct : (c.properties.map (·.name)).Nodup)
    (declared : c.properties[k]? = some p) (v : Value) :
    Alike c { r with values := r.values.set k v } (s.store p.name v) := by
  intro k' p' declared'
  obtain ⟨u, cached, stored⟩ := alike k' p' declared'
  have inside := (List.getElem?_eq_some_iff.mp cached).1
  by_cases same : k = k'
  · subst same
    cases declared.symm.trans declared'
    exact ⟨v, by simp [inside], Keyed.get?_set_self _ _ _⟩
  · have other : p'.name ≠ p.name := by
      intro named
      have place : k' < (c.properties.map (·.name)).length := by
        simpa using (List.getElem?_eq_some_iff.mp declared').1
      exact same ((List.getElem?_inj place distinct).mp (by simp [declared, declared', named])).symm
    exact ⟨u, by simp [List.getElem?_set_ne same, cached], (Keyed.get?_set_of_ne other _ _).trans stored⟩

/-- After one call the two sides are alike again, and what differed was handed over once. -/
theorem Paired.write_step (paired : Paired i c l replica source w r s) (alike : Alike c r s)
    (distinct : i.MembersDistinct c) (free : ("set_property" : Text) ∉ Keyed.keys (i.replicaBindings c))
    (implements : i.Implements c l) (apart : replica ≠ source) (declared : p ∈ c.properties)
    (writable : p.writable) (v : Value) :
    ∃ stored after r' s', s.value? p.name = some stored ∧
      (write c replica source p v).outcome w = (.ok .nothing, after) ∧
      (after.events = w.events ++ if v.equals stored then [] else [.received p.changeName [v, .truth true]]) ∧
      Paired i c l replica source after r' s' ∧ Alike c r' s' := by
  obtain ⟨k, place⟩ := List.mem_iff_getElem?.mp declared
  obtain ⟨stored, cached, has⟩ := alike k p place
  cases equal : v.equals stored with
  | true =>
    have same := paired.outcome_write_of_equal distinct implements declared writable has equal
    exact ⟨stored, w, r, s, has, same, by simp [equal], paired, alike⟩
  | false =>
    have inside := (List.getElem?_eq_some_iff.mp cached).1
    obtain ⟨after, done, noted, still⟩ :=
      paired.write_of_differs distinct free implements apart place writable has inside equal
    exact ⟨stored, after, _, _, has, done, by simpa [equal] using noted, still, alike.store distinct.properties place v⟩

theorem Paired.writeAll_run (paired : Paired i c l replica source w r s) (alike : Alike c r s)
    (distinct : i.MembersDistinct c)
    (free : (∃ p ∈ c.properties, p.writable) → ("set_property" : Text) ∉ Keyed.keys (i.replicaBindings c))
    (implements : i.Implements c l) (apart : replica ≠ source) {calls : List (Property × Value)}
    (allowed : ∀ call ∈ calls, call.1 ∈ c.properties ∧ call.1.writable) :
    ∃ after r' s', (writeAll c replica source calls).outcome w = (.ok (), after) ∧
      Paired i c l replica source after r' s' ∧ Alike c r' s' := by
  induction calls generalizing w r s with
  | nil => exact ⟨w, r, s, rfl, paired, alike⟩
  | cons call rest ih =>
    obtain ⟨declared, writable⟩ := allowed call (by simp)
    obtain ⟨-, middle, r', s', -, done, -, still, alike'⟩ :=
      paired.write_step alike distinct (free ⟨_, declared, writable⟩) implements apart declared writable call.2
    obtain ⟨after, r'', s'', run, ended, alike''⟩ := ih still alike' fun call' among => allowed call' (by simp [among])
    exact ⟨after, r'', s'', by simp [writeAll, done, run], ended, alike''⟩

theorem Paired.agrees (paired : Paired i c l replica source w r s) (distinct : i.MembersDistinct c)
    (implements : i.Implements c l) (alike : Alike c r s) : w.Agrees c replica source := by
  intro k p declared
  obtain ⟨v, cached, stored⟩ := alike k p declared
  refine ⟨v, paired.outcome_read distinct implements (List.mem_of_getElem? declared) stored, ?_⟩
  rw [paired.cached?_eq, cached]

theorem Paired.follows (paired : Paired i c l replica source w r s) (alike : Alike c r s)
    (distinct : i.MembersDistinct c)
    (free : (∃ p ∈ c.properties, p.writable) → ("set_property" : Text) ∉ Keyed.keys (i.replicaBindings c))
    (implements : i.Implements c l) (apart : replica ≠ source) : w.Follows c replica source := by
  intro calls allowed
  obtain ⟨after, r', s', run, still, alike'⟩ :=
    paired.writeAll_run alike distinct free implements apart allowed
  refine ⟨after, run, still.agrees distinct implements alike', fun p declared writable v => ?_⟩
  obtain ⟨stored, final, _, _, has, done, noted, -, -⟩ :=
    still.write_step alike' distinct (free ⟨p, declared, writable⟩) implements apart declared writable v
  exact ⟨stored, final, still.outcome_read distinct implements declared has, done, noted⟩

/-! ## How the two sides start -/

private theorem of_registerTypes {w : World} (done : Act.registerTypes.outcome w = (.ok (), after)) :
    after.objects = w.objects ∧ after.module = w.module := by
  simp only [Act.registerTypes, Act.outcome_bind, Act.outcome_get, Act.outcome_set, Act.outcome_of] at done
  cases (Prod.mk.inj done).2
  exact ⟨rfl, rfl⟩

private theorem of_makeReplica {w : World} {l : Lineage}
    (done : (makeReplica id c l node? name).outcome w = (.ok (), after)) :
    ∃ r, w.module.startValues c = .ok r.values ∧ after.module = w.module ∧
      after.objects = Keyed.set id { lineage := l, state := .replica r } w.objects := by
  obtain ⟨_, registered, types, done⟩ := Act.of_outcome_bind_ok done
  obtain ⟨sameObjects, sameModule⟩ := of_registerTypes types
  simp only [Act.module, Act.outcome_bind, Act.outcome_get, Act.outcome_pure, Act.outcome_of, sameModule] at done
  cases started : w.module.startValues c with
  | error e => simp [started] at done
  | ok values =>
    simp only [started, Act.keep, Act.outcome_modify] at done
    cases done
    exact ⟨{ Replica.create c.name name node? with values }, rfl, sameModule, by rw [sameObjects]⟩

private theorem of_makeSource {w : World} {l : Lineage} {start : Module → Except Fault (List (Text × Value))}
    (done : (makeSource id l start).outcome w = (.ok (), after)) :
    ∃ s : Source, start w.module = .ok s.values ∧ after.module = w.module ∧
      after.objects = Keyed.set id { lineage := l, state := .source s } w.objects := by
  simp only [makeSource] at done
  split at done
  · simp at done
  · obtain ⟨_, registered, types, done⟩ := Act.of_outcome_bind_ok done
    obtain ⟨sameObjects, sameModule⟩ := of_registerTypes types
    simp only [Act.module, Act.outcome_bind, Act.outcome_get, Act.outcome_pure, Act.outcome_of, sameModule] at done
    cases started : start w.module with
    | error e => simp [started] at done
    | ok values =>
      simp only [started, Act.keep, Act.outcome_modify] at done
      cases done
      exact ⟨⟨values⟩, rfl, sameModule, by rw [sameObjects]⟩

private theorem of_signal {w : World} {use : Text}
    (done : (Act.signal id name use).outcome w = (.ok (o, types), after)) :
    Keyed.get? id w.objects = some o ∧ after = w := by
  cases there : Keyed.get? id w.objects with
  | none => simp [Act.signal, Act.object, there] at done
  | some o' =>
    simp only [Act.signal, Act.outcome_bind, Act.outcome_object w there, Act.found] at done
    cases found : o'.lineage.lookup? name with
    | none => simp [found] at done
    | some binding =>
      obtain ⟨owner, member⟩ := binding
      simp only [found, Act.outcome_pure] at done
      cases member <;> simp_all

private theorem of_connect {w : World} {reaction : List Step}
    (done : (connect id name tag reaction).outcome w = (.ok (), after)) :
    ∃ o, Keyed.get? id w.objects = some o ∧ after.module = w.module ∧
      after.objects = Keyed.set id { o with connections := o.connections.connect name tag } w.objects := by
  obtain ⟨⟨o, types⟩, found, isSignal, later⟩ := Act.of_outcome_bind_ok done
  obtain ⟨there, rfl⟩ := of_signal isSignal
  simp only [Act.mention, Act.keep, Act.outcome_bind, Act.outcome_modify] at later
  cases later
  refine ⟨o, there, ?_, ?_⟩ <;> split <;> rfl

/-- Connecting signals leaves each of them with a receiver more, and the rest as it was. -/
private theorem of_connectAll {w : World} {signals : List NumberedSignal}
    (distinct : (signals.map (·.name)).Nodup) (there : Keyed.get? id w.objects = some o)
    (done : (signals.forM fun s => connect id s.name s.name []).outcome w = (.ok (), after)) :
    ∃ connections : Connections Text, Keyed.get? id after.objects = some { o with connections } ∧
      (∀ name ∈ signals.map (·.name), connections.receivers name = o.connections.receivers name ++ [name]) ∧
      (∀ name ∉ signals.map (·.name), connections.receivers name = o.connections.receivers name) ∧
      ∀ other, other ≠ id → Keyed.get? other after.objects = Keyed.get? other w.objects := by
  induction signals generalizing w o with
  | nil =>
    cases done
    exact ⟨o.connections, there, by simp, fun _ _ => rfl, fun _ _ => rfl⟩
  | cons s rest ih =>
    simp only [List.map_cons, List.nodup_cons] at distinct
    obtain ⟨_, middle, first, later⟩ := Act.of_outcome_bind_ok done
    obtain ⟨o', there', -, objects⟩ := of_connect first
    cases there.symm.trans there'
    have kept := Keyed.get?_set_self id { o with connections := o.connections.connect s.name s.name } w.objects
    rw [← objects] at kept
    have alone : ∀ name, name ≠ s.name →
        (o.connections.connect s.name s.name).receivers name = o.connections.receivers name :=
      fun name differs => Connections.receivers_setReceivers_of_ne _ differs _
    obtain ⟨connections, ended, connected, free, untouched⟩ := ih distinct.2 kept later
    refine ⟨connections, ended, fun name among => ?_, fun name apart => ?_, fun other different => ?_⟩
    · rcases List.mem_cons.mp among with rfl | among
      · rw [free _ distinct.1]
        exact Connections.receivers_setReceivers_self _ _ _
      · rw [connected name among, alone name fun same => distinct.1 (same ▸ among)]
    · rw [List.map_cons, List.mem_cons, not_or] at apart
      rw [free name apart.2, alone name apart.1]
    · rw [untouched other different, objects, Keyed.get?_set_of_ne different]

theorem of_makePair {before : World} (distinct : before.module.interface.MembersDistinct c) (apart : replica ≠ source)
    (made : (makePair c l replica source node? name).outcome before = (.ok (), after)) :
    ∃ r s, Paired before.module.interface c l replica source after r s ∧
      before.module.startValues c = .ok r.values ∧ before.module.startProperties c = .ok s.values := by
  obtain ⟨m, start, asked, begun⟩ := Act.of_outcome_bind_ok made
  cases asked
  obtain ⟨_, middle, replicaMade, begun⟩ := Act.of_outcome_bind_ok begun
  obtain ⟨_, ready, sourceMade, connected⟩ := Act.of_outcome_bind_ok begun
  obtain ⟨r, values, sameModule, objects⟩ := of_makeReplica replicaMade
  obtain ⟨s, properties, -, moreObjects⟩ := of_makeSource sourceMade
  rw [sameModule] at properties
  have there := Keyed.get?_set_self source { lineage := l, state := .source s } middle.objects
  rw [← moreObjects] at there
  have names : (c.ordinals.changes.map (·.name)).Nodup :=
    distinct.signals.sublist (List.filter_sublist.map _)
  obtain ⟨connections, ended, receivers, -, untouched⟩ := of_connectAll names there connected
  have replicaThere : Keyed.get? replica after.objects =
      some { lineage := before.module.interface.replicaLineage c, state := .replica r } := by
    rw [untouched replica apart, moreObjects, Keyed.get?_set_of_ne apart, objects]
    exact Keyed.get?_set_self _ _ _
  refine ⟨r, s, ⟨⟨_, replicaThere, rfl, rfl⟩, ⟨_, ended, rfl, rfl, ?_⟩⟩, values, properties⟩
  intro n change
  exact receivers n.name (List.mem_map_of_mem change)

private theorem mapM_pair {α β γ ε : Type} {key : α → β} {f : α → Except ε γ} {xs : List α} {entries : List (β × γ)}
    (done : (xs.mapM fun x => do return (key x, ← f x)) = .ok entries) :
    entries.map (·.1) = xs.map key ∧ xs.mapM f = .ok (entries.map (·.2)) := by
  induction xs generalizing entries with
  | nil =>
    cases done
    exact ⟨rfl, rfl⟩
  | cons x rest ih =>
    rw [List.mapM_cons] at done
    obtain ⟨entry, head, done⟩ := of_bind_ok done
    obtain ⟨later, tail, done⟩ := of_bind_ok done
    obtain ⟨value, found, head⟩ := of_bind_ok head
    cases head
    cases done
    obtain ⟨keys, values⟩ := ih tail
    exact ⟨by rw [List.map_cons, List.map_cons, keys], by rw [List.mapM_cons, found, ok_bind, values]; rfl⟩

/-- The two sides start alike exactly if the defaults stand alone. -/
theorem alike_iff {m : Module} (distinct : m.interface.MembersDistinct c) (values : m.startValues c = .ok r.values)
    (properties : m.startProperties c = .ok s.values) :
    Alike c r s ↔ DefaultExpr.StandAlone m (c.properties.map (m.defaultExpr c)) := by
  obtain ⟨names, each⟩ := mapM_pair properties
  have list : (c.properties.map (m.defaultExpr c)).mapM (DefaultExpr.value m) = .ok (s.values.map (·.2)) := by
    rw [List.mapM_map]
    exact each
  have keys : (Keyed.keys s.values).Nodup := by
    rw [Keyed.keys, names]
    exact distinct.properties
  have stored (k : Nat) (p : Property) (declared : c.properties[k]? = some p) :
      ∃ v, (s.values.map (·.2))[k]? = some v ∧ s.value? p.name = some v := by
    have named := congrArg (·[k]?) names
    simp only [List.getElem?_map, declared, Option.map_some, Option.map_eq_some_iff] at named
    obtain ⟨⟨name, v⟩, entry, rfl⟩ := named
    exact ⟨v, by simp [entry], Keyed.get?_of_mem keys (List.mem_of_getElem? entry)⟩
  rw [DefaultExpr.standAlone_iff values list, List.prefix_iff_getElem?]
  constructor
  · intro alike k inside
    have length : s.values.length = c.properties.length := by simpa using congrArg List.length names
    have declared := List.getElem?_eq_getElem (show k < c.properties.length by simpa [length] using inside)
    obtain ⟨v, cached, has⟩ := alike k _ declared
    obtain ⟨v', entry, has'⟩ := stored k _ declared
    cases has.symm.trans has'
    rw [cached, ← entry, List.getElem?_eq_getElem inside]
  · intro begins k p declared
    obtain ⟨v, entry, has⟩ := stored k p declared
    obtain ⟨inside, same⟩ := List.getElem?_eq_some_iff.mp entry
    exact ⟨v, by rw [begins k inside, same], has⟩

/-! ## Replicas that cannot be told -/

private theorem told_of_request {kind : RequestKind} {index : Int} {args : Value}
    {returnType? : Option Text} {answer : Answer}
    (done : (request id o r kind index args returnType?).outcome w = (.ok answer, after)) : answer.told = .none := by
  simp only [request] at done
  split at done
  · simp at done
  · obtain ⟨_, _, _, done⟩ := Act.of_outcome_bind_ok done
    obtain ⟨_, _, _, done⟩ := Act.of_outcome_bind_ok done
    split at done
    · simp only [Act.openReply, Act.outcome_bind, Act.outcome_get, Act.outcome_set, Act.outcome_pure] at done
      cases done
      rfl
    · cases done
      rfl

private theorem told_of_runReplicaMethod {function : Text} {method : Method}
    (other : method ≠ .update) {answer : Answer}
    (done : (runReplicaMethod id o r function args method).outcome w = (.ok answer, after)) :
    answer.told = .none := by
  cases method with
  | update => exact absurd rfl other
  | cached ordinal expected property =>
    obtain ⟨_, _, _, done⟩ := Act.of_outcome_bind_ok done
    obtain ⟨_, _, _, done⟩ := Act.of_outcome_bind_ok done
    obtain ⟨_, _, _, done⟩ := Act.of_outcome_bind_ok done
    obtain ⟨_, _, _, done⟩ := Act.of_outcome_bind_ok done
    cases done
    rfl
  | write ordinal param =>
    obtain ⟨_, _, _, done⟩ := Act.of_outcome_bind_ok done
    exact told_of_request done
  | invoke ordinal params returnType? =>
    obtain ⟨_, _, _, done⟩ := Act.of_outcome_bind_ok done
    exact told_of_request done
  | _ =>
    cases done
    rfl

theorem ne_update_of_mem {member : Member} (bound : (name, member) ∈ i.replicaBindings c) :
    member ≠ .method .update := by
  rintro rfl
  simp only [Interface.replicaBindings, List.mem_append, Interface.aliasBindings, Interface.signalBindings,
    List.mem_map, List.mem_flatMap, Interface.replicaPropertyBindings, Interface.replicaSlotBinding] at bound
  rcases bound with ((⟨e, _, same⟩ | ⟨n, _, same⟩) | ⟨n, _, same⟩) | ⟨n, _, same⟩
  · simp at same
  · simp at same
  · split at same <;> simp at same
  · simp at same

/-- A replica whose class binds the name to something else takes nothing in under it. -/
theorem told_of_bound (distinct : i.MembersDistinct c) (bound : name ∈ Keyed.keys (i.replicaBindings c))
    {react : List Value → Text → Act Unit} (there : Keyed.get? replica w.objects = some o)
    (lineage : o.lineage = i.replicaLineage c) (state : o.state = .replica r) {answer : Answer}
    (done : (callMember react replica name (pure args)).outcome w = (.ok answer, after)) :
    answer.told = .none := by
  obtain ⟨⟨_, member⟩, among, rfl⟩ := List.mem_map.mp bound
  have found := distinct.lookup?_replica among
  rw [← lineage] at found
  simp only [callMember, Act.outcome_bind, Act.outcome_object w there, Act.outcome_found w found,
    Act.outcome_pure] at done
  cases member with
  | method method =>
    simp only [runMethod, state] at done
    exact told_of_runReplicaMethod (fun same => ne_update_of_mem among (by rw [same])) done
  | signal types => simp at done
  | value v => simp at done
  | _ =>
    cases done
    rfl

private theorem exists_differs (stored : Value) : ∃ v : Value, v.equals stored = false := by
  cases stored with
  | none => exact ⟨.text [], rfl⟩
  | real d => exact ⟨.none, rfl⟩
  | _ => exact ⟨.none, rfl⟩

/-- Where a value that differs is taken in, the replica has the function for it. -/
theorem Paired.free_of_follows (paired : Paired i c l replica source w r s) (distinct : i.MembersDistinct c)
    (implements : i.Implements c l) (apart : replica ≠ source) (follows : w.Follows c replica source)
    (declared : p ∈ c.properties) (writable : p.writable) :
    ("set_property" : Text) ∉ Keyed.keys (i.replicaBindings c) := by
  intro bound
  obtain ⟨after, run, -, each⟩ := follows [] (by simp)
  cases run
  obtain ⟨stored, -, has, -, -⟩ := each p declared writable .none
  obtain ⟨v, differs⟩ := exists_differs stored
  obtain ⟨stored', final, has', done, noted⟩ := each p declared writable v
  cases has.symm.trans has'
  rw [differs] at noted
  obtain ⟨k, place⟩ := List.mem_iff_getElem?.mp declared
  have notifies : p.notifies := by simp_all [Property.notifies, Property.writable]
  obtain ⟨n, -, -, -, back, first⟩ := distinct.change_of_property place notifies
  obtain ⟨o, there, lineage, state, -⟩ := paired.sourceThere
  obtain ⟨o', there', lineage', state'⟩ := paired.replicaThere
  rw [paired.outcome_write_of_differs distinct implements place writable
    (paired.value?_of_read distinct implements declared has) differs o there] at done
  obtain ⟨_, _, forwarded, ended⟩ := Act.of_outcome_bind_ok done
  cases ended
  simp only [forward, first, back] at forwarded
  obtain ⟨answer, _, called, ended⟩ := Act.of_outcome_bind_ok forwarded
  cases ended
  have told := told_of_bound distinct bound ((Keyed.get?_set_of_ne apart _ _).trans there') lineage' state' called
  have last := congrArg List.getLast? noted
  simp [told] at last

end

end Session

/-- A replica that is told of every change of a source has the values of the source at the start and after any calls
of setters exactly if its defaults stand alone, and nothing of its class hides the function that takes values in. -/
theorem Session.follows_iff {c : ClassDecl} {l : Lineage} {replica source : Text} {node? : Option Text} {name : Text}
    {before w : World} (distinct : before.module.interface.MembersDistinct c)
    (implements : before.module.interface.Implements c l) (apart : replica ≠ source)
    (made : (makePair c l replica source node? name).outcome before = (.ok (), w)) :
    w.Follows c replica source ↔ before.module.Mirrors c := by
  obtain ⟨r, s, paired, values, properties⟩ := of_makePair distinct apart made
  have start := alike_iff distinct values properties
  constructor
  · intro follows
    refine ⟨start.mp fun k p declared => ?_, fun ⟨p, declared, writable⟩ =>
      paired.free_of_follows distinct implements apart follows declared writable⟩
    obtain ⟨after, run, agrees, -⟩ := follows [] (by simp)
    cases run
    obtain ⟨v, has, cached⟩ := agrees k p declared
    refine ⟨v, (paired.cached?_eq k).symm.trans cached, ?_⟩
    exact paired.value?_of_read distinct implements (List.mem_of_getElem? declared) has
  · intro mirrors
    exact paired.follows (start.mpr mirrors.defaults) distinct mirrors.reached implements apart

/-- A source that adds no more than slots implements its class. -/
theorem Interface.implements_implement {slots : List (Text × Value)} (distinct : (slots.map (·.1.unreserved)).Nodup)
    (declared : ∀ slot ∈ slots, slot.1.unreserved ∈ c.slots.map (·.name.unreserved)) :
    i.Implements c ((i.simpleSourceLineage c).implement slots) := by
  intro name other
  rw [Lineage.implement, Lineage.lookup?, List.findSome?_cons]
  generalize members : slots.map _ = ms
  have keys : Keyed.keys ms = slots.map (·.1.unreserved) := by
    simp [← members, Keyed.keys, Function.comp_def]
  have absent : Keyed.get? name (Keyed.ofList ms) = none := by
    rw [Keyed.ofList_of_nodup (keys ▸ distinct), Keyed.get?_eq_none_iff, keys]
    intro there
    obtain ⟨slot, among, rfl⟩ := List.mem_map.mp there
    exact other (declared slot among)
  rw [absent]
  rfl

def gauge : ClassDecl where
  name := "Gauge"
  properties := [{ type := "QString", name := "unit", access := .constant, default := "\"bar\"" },
    { type := "int", name := "level", default := "3" }, { type := "QString", name := "class", default := "\"\"" }]
  slots := [{ name := "reset" }]

def gaugeUnit : Module where
  interface := { classes := [gauge] }

def gaugeType : Lineage := (gaugeUnit.interface.simpleSourceLineage gauge).implement [("reset", .none)]

theorem Session.follows_iff_gauge :
    ∃ w, (makePair gauge gaugeType "replica" "source" none []).outcome { module := gaugeUnit } = (.ok (), w) ∧
      w.Follows gauge "replica" "source" := by
  have distinct : gaugeUnit.interface.MembersDistinct gauge := ⟨by decide, by decide⟩
  have implements : gaugeUnit.interface.Implements gauge gaugeType :=
    Interface.implements_implement (by decide) (by decide)
  have mirrors : gaugeUnit.Mirrors gauge := ⟨by decide +kernel, by decide⟩
  have possible :
      ((makePair gauge gaugeType "replica" "source" none []).outcome { module := gaugeUnit }).1.isOk := by
    decide +kernel
  have apart : Text.ofString "replica" ≠ Text.ofString "source" := by decide
  have pairs := @follows_iff gauge gaugeType "replica" "source" none [] { module := gaugeUnit }
  generalize (makePair gauge gaugeType "replica" "source" none []).outcome { module := gaugeUnit } = outcome at *
  obtain ⟨_ | _, w⟩ := outcome
  · cases possible
  · exact ⟨w, rfl, (pairs distinct implements apart rfl).mpr mirrors⟩

-- A remark hides the comma after the first default, so that the two defaults become one.
example : ¬ DefaultExpr.StandAlone {} [.quoted "\"x\" # \"", .quoted "\"y\""] := by decide +kernel

end Counterpart
