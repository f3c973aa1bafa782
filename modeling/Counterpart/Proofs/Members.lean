import Counterpart.Module.Sound
import Counterpart.Proofs.Results
import Counterpart.Session.Run
import Mathlib.Data.List.Induction
import Mathlib.Data.List.Nodup

/-!
What classes bind to names, and what an action does to a session. Bindings under names of their own are found as
they were made, and an action that runs on another one is known from what the two do alone.
-/
namespace Counterpart

variable {member : Member} {name : Text}

/-! ## Modules -/

theorem Scope.mem_of_find? {scope : Scope} {d : Definition} (found : scope.find? name = some d) : (name, d) ∈ scope := by
  obtain ⟨entry, last, rfl⟩ := Option.map_eq_some_iff.mp found
  obtain ⟨among, same⟩ := List.mem_filter.mp (List.mem_of_getLast? last)
  simpa [← of_decide_eq_true same] using among

theorem Scope.find?_of_mem {scope : Scope} (distinct : (scope.map (·.1)).Nodup) {d : Definition}
    (defined : (name, d) ∈ scope) : scope.find? name = some d := by
  rw [find?]
  generalize keeps : scope.filter _ = named
  have among : (name, d) ∈ named := keeps ▸ List.mem_filter.mpr ⟨defined, by simp⟩
  have some := List.getLast?_eq_some_getLast (List.ne_nil_of_mem among)
  generalize named.getLast (List.ne_nil_of_mem among) = last at some
  have found := List.mem_filter.mp (keeps ▸ List.mem_of_getLast? some)
  have same : last = (name, d) :=
    List.inj_on_of_nodup_map distinct found.1 defined (by simpa using found.2)
  rw [some, same]
  rfl

/-- The names that a module has beside those of its classes: those that it imports, those that are there anyway and
that it makes use of, and those of its functions. -/
def Interface.otherNames (i : Interface) : List Text :=
  PythonModule.importedNames ++ PythonModule.builtinNames ++ [Text.ofString "_register_types"] ++
    i.usedEnums.flatMap fun name => ["_pack_", "_unpack_"].map fun verb : Text => Text.concat [verb, name.identifier]

namespace Module

variable {m : Module}

/-- No class takes the place of something that the module is made with. -/
def Unhidden (m : Module) : Prop := ∀ name ∈ m.definitions.map (·.1), name ∉ m.interface.otherNames

instance (m : Module) : Decidable m.Unhidden := List.decidableBAll _ _

theorem exists_enum_of_definition? {cls : Text} {plan : EnumPlan} (defined : m.definition? cls = some (.enum plan)) :
    ∃ e : EnumDecl, (e ∈ m.interface.enums ∨ ∃ c ∈ m.interface.classes, e ∈ c.enums) ∧ plan = e.plan := by
  rcases List.mem_append.mp (Scope.mem_of_find? defined) with among | isSide
  · rcases List.mem_append.mp among with isEnum | isRecord
    · obtain ⟨_, emitted, same⟩ := List.mem_map.mp isEnum
      cases same
      rcases List.mem_append.mp emitted with isGlobal | isMember
      · obtain ⟨e, declared, same⟩ := List.mem_map.mp isGlobal
        cases same
        exact ⟨e, .inl declared, rfl⟩
      · obtain ⟨c, isClass, among⟩ := List.mem_flatMap.mp isMember
        obtain ⟨e, declared, same⟩ := List.mem_map.mp among
        cases same
        exact ⟨e, .inr ⟨c, isClass, declared⟩, rfl⟩
    · simp at isRecord
  · obtain ⟨c, -, among⟩ := List.mem_flatMap.mp isSide
    simp only [Mode.definitions] at among
    split at among <;> split at among <;> simp at among

theorem isSound_iff : m.isSound ↔ (∀ title ∈ m.definitions.map (·.1), title.isFree) ∧
    (∀ e ∈ m.interface.enums, e.isSound) ∧
    (∀ r ∈ m.interface.records, m.interface.isSoundRecord (m.definitions.map (·.1)) r) ∧
    (∀ c ∈ m.interface.classes, m.interface.isSoundClass c) ∧
    (∀ name ∈ m.interface.usedEnums, Text.isPlainText name) ∧
    ∀ d ∈ m.interface.directives, d.all fun c => 32 ≤ c.val && c.val < 127 := by
  simp only [isSound, Bool.and_eq_true, List.all_eq_true, and_assoc]

theorem nodup_fieldNames (sound : m.isSound) {r : RecordDecl} (declared : r ∈ m.interface.records) :
    (r.attributes.map (·.fieldName)).Nodup := by
  have record := (isSound_iff.mp sound).2.2.1 r declared
  simp only [Interface.isSoundRecord, Bool.and_eq_true, decide_eq_true_eq] at record
  exact record.1

/-- What the sides of a class are made of, in a sound module. -/
structure SoundSides (m : Module) (c : ClassDecl) : Prop where
  name : c.name.isAsciiName
  enums : ∀ e ∈ c.enums, e.isSound
  defaults : ∀ p ∈ c.properties, (m.defaultExpr c p).isClosed
  types : ∀ type ∈ c.mentions, m.interface.isSoundType (some c) type
  members : ∀ name ∈ Interface.memberNames c, name ∉ PythonModule.sideNames

theorem soundSides (sound : m.isSound) {c : ClassDecl} (declared : c ∈ m.interface.classes) : m.SoundSides c := by
  have isClass := (isSound_iff.mp sound).2.2.2.1 c declared
  simp only [Interface.isSoundClass, Bool.and_eq_true, List.all_eq_true] at isClass
  obtain ⟨⟨⟨⟨⟨⟨name, enums⟩, properties⟩, -⟩, -⟩, types⟩, members⟩ := isClass
  exact {
    name := name
    enums := fun e among => (enums e among).1.1.1
    defaults := fun p among => (properties p among).2
    types := types
    members := fun name among => by simpa using members name among }

theorem isSound_of_definition? (sound : m.isSound) {cls : Text} {plan : EnumPlan}
    (defined : m.definition? cls = some (.enum plan)) : ∃ e : EnumDecl, e.isSound ∧ plan = e.plan := by
  obtain ⟨e, declared, same⟩ := exists_enum_of_definition? defined
  refine ⟨e, ?_, same⟩
  rcases declared with isGlobal | ⟨c, isClass, isMember⟩
  · exact (isSound_iff.mp sound).2.1 e isGlobal
  · exact (soundSides sound isClass).enums e isMember

end Module

/-! ## Entries by key -/

namespace Keyed

variable {κ α : Type} [DecidableEq κ]

theorem get?_eq_none_iff {key : κ} {entries : List (κ × α)} : get? key entries = none ↔ key ∉ keys entries := by
  induction entries with
  | nil => simp [get?, keys]
  | cons entry rest ih =>
    obtain ⟨k, v⟩ := entry
    simp only [keys] at ih
    by_cases same : k = key
    · simp [get?, keys, same]
    · simp [get?, keys, same, ih, Ne.symm same]

theorem mem_of_get? {key : κ} {value : α} {entries : List (κ × α)} (found : get? key entries = some value) :
    (key, value) ∈ entries := by
  induction entries with
  | nil => cases found
  | cons entry rest ih =>
    obtain ⟨k, v⟩ := entry
    rw [get?] at found
    split at found
    next same =>
      cases found
      simp [same]
    next => exact List.mem_cons_of_mem _ (ih found)

theorem get?_of_mem {key : κ} {value : α} {entries : List (κ × α)} (distinct : (keys entries).Nodup)
    (bound : (key, value) ∈ entries) : get? key entries = some value := by
  induction entries with
  | nil => simp at bound
  | cons entry rest ih =>
    obtain ⟨k, v⟩ := entry
    simp only [keys, List.map_cons, List.nodup_cons, List.mem_map] at distinct
    rcases List.mem_cons.mp bound with same | later
    · cases same
      simp [get?]
    · have different : k ≠ key := fun same => distinct.1 ⟨(key, value), later, same.symm⟩
      simpa [get?, different] using ih distinct.2 later

theorem set_of_notMem {key : κ} {value : α} {entries : List (κ × α)} (new : key ∉ keys entries) :
    set key value entries = entries ++ [(key, value)] := by
  induction entries with
  | nil => simp [set]
  | cons entry rest ih =>
    obtain ⟨k, v⟩ := entry
    simp only [keys, List.map_cons, List.mem_cons, not_or] at new
    simp only [set, Ne.symm new.1, if_false, List.cons_append, List.cons.injEq, true_and]
    exact ih new.2

private theorem foldl_set_of_nodup (sofar entries : List (κ × α)) (distinct : (keys (sofar ++ entries)).Nodup) :
    entries.foldl (fun sofar entry => set entry.1 entry.2 sofar) sofar = sofar ++ entries := by
  induction entries generalizing sofar with
  | nil => simp
  | cons entry rest ih =>
    have new : entry.1 ∉ keys sofar := by
      intro there
      simp only [keys, List.map_append, List.map_cons, List.nodup_append] at distinct
      exact distinct.2.2 entry.1 there entry.1 (by simp) rfl
    rw [List.foldl_cons, set_of_notMem new, ih _ (by simpa [List.append_assoc] using distinct)]
    simp

theorem ofList_of_nodup {entries : List (κ × α)} (distinct : (keys entries).Nodup) : ofList entries = entries := by
  simpa [ofList] using foldl_set_of_nodup [] entries distinct

theorem get?_ofList (key : κ) (entries : List (κ × α)) : get? key (ofList entries) = get? key entries.reverse := by
  induction entries using List.reverseRecOn with
  | nil => rfl
  | append_singleton entries entry ih =>
    obtain ⟨k, v⟩ := entry
    have added : ofList (entries ++ [(k, v)]) = set k v (ofList entries) := by simp [ofList]
    rw [added, List.reverse_append, List.reverse_singleton, List.singleton_append, get?]
    split
    next same => rw [same, get?_set_self]
    next different => rw [get?_set_of_ne (Ne.symm different), ih]

theorem set_self {key : κ} {value : α} {entries : List (κ × α)} (found : get? key entries = some value) :
    set key value entries = entries := by
  induction entries with
  | nil => simp [get?] at found
  | cons entry rest ih =>
    obtain ⟨k, v⟩ := entry
    by_cases same : k = key
    · simp only [get?, same, if_true, Option.some.injEq] at found
      simp [set, same, found]
    · simp only [get?, same, if_false] at found
      simp [set, same, ih found]

theorem get?_map_const {β : Type} {key : κ} {value : β} {entries : List (κ × α)} (among : key ∈ keys entries) :
    get? key (entries.map fun entry => (entry.1, value)) = some value := by
  induction entries with
  | nil => simp [keys] at among
  | cons entry rest ih =>
    rw [List.map_cons, get?]
    split
    next => rfl
    next different => exact ih ((List.mem_cons.mp among).resolve_left (Ne.symm different))

end Keyed

/-! ## Members of classes -/

/-- Every replica can be updated, unless its class binds that name. -/
theorem Interface.lookup?_update {i : Interface} {c : ClassDecl}
    (free : ("set_property" : Text) ∉ Keyed.keys (i.replicaBindings c)) :
    (i.replicaLineage c).lookup? "set_property" = some (Layer.replicaBase.name, .method .update) := by
  have absent : Keyed.get? ("set_property" : Text) (i.replicaLayer c).members = none := by
    rw [replicaLayer, Keyed.get?_ofList, Keyed.get?_eq_none_iff]
    simpa [Keyed.keys] using free
  simp only [Lineage.lookup?, replicaLineage, List.findSome?_cons, absent, Option.map_none]
  rfl

structure Interface.MembersDistinct (i : Interface) (c : ClassDecl) : Prop where
  replica : (Keyed.keys (i.replicaBindings c)).Nodup
  source : (Keyed.keys (i.sourceBindings c)).Nodup

namespace Interface.MembersDistinct

variable {i : Interface} {c : ClassDecl} (distinct : i.MembersDistinct c)

include distinct

theorem lookup?_replica (bound : (name, member) ∈ i.replicaBindings c) :
    (i.replicaLineage c).lookup? name = some (c.replicaName, member) := by
  have found : Keyed.get? name (i.replicaLayer c).members = some member := by
    rw [replicaLayer, Keyed.ofList_of_nodup distinct.replica]
    exact Keyed.get?_of_mem distinct.replica bound
  simp [Lineage.lookup?, replicaLineage, found]
  rfl

private theorem source_keys :
    (Keyed.keys (i.aliasBindings c) ++ Keyed.keys (i.signalBindings c) ++ Keyed.keys (simpleSourceBindings c) ++
      c.slots.map (·.name.unreserved)).Nodup := by
  have bound := distinct.source
  have same : Keyed.keys (i.sourceBindings c) = Keyed.keys (i.aliasBindings c) ++ Keyed.keys (i.signalBindings c) ++
      Keyed.keys (simpleSourceBindings c) ++ c.slots.map (·.name.unreserved) := by
    simp [Keyed.keys, sourceBindings, simpleSourceBindings, Function.comp_def]
  rwa [same] at bound

theorem slots : (c.slots.map (·.name)).Nodup := by
  have bound := distinct.source_keys.of_append_right
  exact List.Nodup.of_map Text.unreserved (by simpa [Function.comp_def] using bound)

theorem simpleSource : (Keyed.keys (simpleSourceBindings c)).Nodup :=
  distinct.source_keys.of_append_left.of_append_right

theorem properties : (c.properties.map (·.name)).Nodup := by
  have bound := distinct.simpleSource
  rw [simpleSourceBindings, Keyed.keys, List.map_append] at bound
  exact List.Nodup.of_map Text.unreserved (by simpa [Function.comp_def] using bound.of_append_left)

theorem signals : (c.ordinals.signals.map (·.name)).Nodup := by
  have bound := distinct.source_keys.of_append_left.of_append_left.of_append_right
  simpa [Keyed.keys, signalBindings, Function.comp_def] using bound

theorem lookup?_simpleSource (bound : (name, member) ∈ simpleSourceBindings c) :
    (i.simpleSourceLineage c).lookup? name = some (c.simpleSourceName, member) := by
  have found : Keyed.get? name (simpleSourceLayer c).members = some member := by
    rw [simpleSourceLayer, Keyed.ofList_of_nodup distinct.simpleSource]
    exact Keyed.get?_of_mem distinct.simpleSource bound
  simp only [Lineage.lookup?, simpleSourceLineage, List.findSome?_cons, found, Option.map_some]
  rfl

theorem lookup?_signal {s : NumberedSignal} (numbered : s ∈ c.ordinals.signals) :
    (i.simpleSourceLineage c).lookup? s.name = some (c.sourceName, .signal (i.signalTypes c s)) := by
  have among : s.name ∈ Keyed.keys (i.signalBindings c) := by
    simpa [Keyed.keys, signalBindings] using ⟨s, numbered, rfl⟩
  have absent : Keyed.get? s.name (simpleSourceLayer c).members = none := by
    rw [simpleSourceLayer, Keyed.ofList_of_nodup distinct.simpleSource, Keyed.get?_eq_none_iff]
    intro other
    have apart := (List.nodup_append.mp distinct.source_keys.of_append_left).2.2
    exact apart s.name (List.mem_append_right _ among) s.name other rfl
  have found : Keyed.get? s.name (i.sourceLayer c).members = some (.signal (i.signalTypes c s)) := by
    rw [sourceLayer, Keyed.ofList_of_nodup distinct.source]
    apply Keyed.get?_of_mem distinct.source
    simp only [sourceBindings, List.append_assoc]
    exact List.mem_append_right _ (List.mem_append_left _ (List.mem_map.mpr ⟨s, numbered, rfl⟩))
  simp only [Lineage.lookup?, simpleSourceLineage, sourceLineage, List.findSome?_cons, absent, found, Option.map_none,
    Option.map_some]
  rfl

theorem notMem_slots (bound : name ∈ Keyed.keys (i.signalBindings c) ∨ name ∈ Keyed.keys (simpleSourceBindings c)) :
    name ∉ c.slots.map (·.name.unreserved) := by
  intro isSlot
  have apart := (List.nodup_append.mp distinct.source_keys).2.2
  refine apart name ?_ name isSlot rfl
  rcases bound with signal | simple
  · exact List.mem_append_left _ (List.mem_append_right _ signal)
  · exact List.mem_append_right _ simple

end Interface.MembersDistinct

/-! ## Ordinals -/

theorem map_property_ordinals (c : ClassDecl) : c.ordinals.properties.map (·.property) = c.properties := by
  simp only [ClassDecl.ordinals, List.map_map, Function.comp_def]
  exact List.zipIdx_map_fst 0 c.properties

theorem map_slot_ordinals (c : ClassDecl) : c.ordinals.methods.map (·.slot) = c.slots := by
  simp only [ClassDecl.ordinals, List.map_map, Function.comp_def]
  exact List.zipIdx_map_fst 0 c.slots

theorem map_signals {α : Type} (c : ClassDecl) (f : Text × List Parameter × Option Nat → α) :
    c.ordinals.signals.map (fun s => f (s.name, s.params, s.property?)) = c.signalHeads.map f := by
  conv_rhs => rw [← List.zipIdx_map_fst 0 c.signalHeads, List.map_map]
  simp only [ClassDecl.ordinals, List.map_map, Function.comp_def]

theorem map_snd_notifying (c : ClassDecl) : c.notifying.map (·.2) = c.properties.filter (·.notifies) := by
  conv_rhs => rw [← List.zipIdx_map_fst 0 c.properties, List.filter_map]
  simp [ClassDecl.notifying, List.filter_map, Function.comp_def]

/-- The change signals come first, so that their properties are found by the ordinals of all signals. -/
theorem property?_signals (c : ClassDecl) (n : Nat) :
    c.ordinals.signals[n]?.bind (·.property?) = c.notifying[n]?.map (·.1) := by
  have listed : c.ordinals.signals.map (·.property?) =
      c.notifying.map (fun p => some p.1) ++ c.signals.map fun _ => none := by
    simpa [ClassDecl.signalHeads, Function.comp_def] using map_signals c fun head => head.2.2
  have joined : c.ordinals.signals[n]?.bind (·.property?) = (c.ordinals.signals.map (·.property?))[n]?.join := by
    rw [List.getElem?_map]
    cases c.ordinals.signals[n]? <;> rfl
  rw [joined, listed]
  by_cases inside : n < c.notifying.length
  · rw [List.getElem?_append_left (by simpa using inside)]
    simp [List.getElem?_map, List.getElem?_eq_getElem inside]
  · rw [List.getElem?_append_right (by simpa using inside), List.getElem?_map,
      List.getElem?_eq_none (by simpa using inside : c.notifying.length ≤ n)]
    cases c.signals[n - (c.notifying.map fun p => some p.1).length]? <;> rfl

/-! ## Actions -/

namespace Session.Act

variable {o : Instance}

/-- What an action gives in a session, and the session after it. -/
def outcome {α : Type} (x : Act α) (w : World) : Except Fault α × World := x.run.run w

variable {α β : Type} (w : World)

@[simp] theorem outcome_pure (a : α) : (pure a : Act α).outcome w = (.ok a, w) := rfl

@[simp] theorem outcome_throw (e : Fault) : (throw e : Act α).outcome w = (.error e, w) := rfl

@[simp] theorem outcome_get : (get : Act World).outcome w = (.ok w, w) := rfl

@[simp] theorem outcome_set (after : World) : (set after : Act PUnit).outcome w = (.ok (), after) := rfl

@[simp] theorem outcome_modify (f : World → World) : (modify f : Act PUnit).outcome w = (.ok (), f w) := rfl

@[simp] theorem outcome_bind (x : Act α) (next : α → Act β) :
    (x >>= next).outcome w =
      match x.outcome w with
      | (.ok a, after) => (next a).outcome after
      | (.error e, after) => (.error e, after) := by
  simp only [outcome, ExceptT.run_bind, StateT.run_bind]
  rcases x.run.run w with ⟨_ | a, after⟩ <;> rfl

/-- What goes on with the result of an action goes on where the action ended. -/
theorem of_outcome_bind_ok {x : Act α} {next : α → Act β} {b : β} {w after : World}
    (done : (x >>= next).outcome w = (.ok b, after)) :
    ∃ a middle, x.outcome w = (.ok a, middle) ∧ (next a).outcome middle = (.ok b, after) := by
  rw [outcome_bind] at done
  split at done
  next a middle first => exact ⟨a, middle, first, done⟩
  next => simp at done

@[simp] theorem outcome_map (f : α → β) (x : Act α) :
    (f <$> x).outcome w = ((x.outcome w).1.map f, (x.outcome w).2) := by
  rw [← bind_pure_comp, outcome_bind]
  rcases x.outcome w with ⟨_ | a, after⟩ <;> rfl

@[simp] theorem outcome_of (x : Except Fault α) : (of x).outcome w = (x, w) := by
  cases x <;> rfl

theorem outcome_object {id : Text} (there : Keyed.get? id w.objects = some o) :
    (object id).outcome w = (.ok o, w) := by
  simp [object, there]

theorem outcome_found {owner : Text} (there : o.lineage.lookup? name = some (owner, member)) :
    (found o name).outcome w = (.ok (owner, member), w) := by
  simp [found, there]

end Session.Act

/-- What a step tells is what its action does. -/
theorem Session.advance_eq {step : Step} {act : (Step → Act Answer) → Act Answer}
    (taken : ∀ inner, take inner step = act inner) (w : World) :
    advance w step =
      let taken := (act (takeWithin (w.depth + 1))).outcome w
      (⟨taken.1.mapError .fault, taken.2.sent.map fun request => sentTo request.1 request.2, taken.2.events,
        taken.2.log.map (·.message)⟩, { taken.2 with sent := [], events := [], log := [] }) := by
  rw [← taken]
  rfl

end Counterpart
