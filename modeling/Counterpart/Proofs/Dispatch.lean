import Counterpart.Proofs.Members

/-!
Replicas and descriptors agree on what a number means. A member of a replica asks the other side for an ordinal;
a descriptor resolves the ordinal to a member of the type it is bound to. The main statement says that the member
found is the one that the replica's member was declared for, whatever that type is.
-/
namespace Counterpart

open Session

variable {c : ClassDecl} {i : Interface} {k : Nat} {s : Operation} {p : Property} {t name : Text} {α : Type}

/-- Calling a member of some replica of a class hands a request to its node. -/
def Interface.Requests (i : Interface) (c : ClassDecl) (name : Text) (request : Invocation) : Prop :=
  ∃ (react : List Value → Text → Act Unit) (w : World) (id : Text) (o : Instance) (r : Replica)
    (args : List Value) (node : Text),
    Keyed.get? id w.objects = some o ∧ o.lineage = i.replicaLineage c ∧ o.state = .replica r ∧
    ((callMember react id name (pure args)).outcome w).2.sent = w.sent ++ [(node, request)]

/-! ## Requests of replicas -/

/-- Running the method hands over one request of a kind and an index, or none. -/
private def Asks (m : Method) (kind : RequestKind) (index : Int) : Prop :=
  ∀ (w : World) (id : Text) (o : Instance) (r : Replica) (function : Text) (args : List Value),
    ((runReplicaMethod id o r function args m).outcome w).2.sent = w.sent ∨
      ∃ node items, ((runReplicaMethod id o r function args m).outcome w).2.sent =
        w.sent ++ [(node, ⟨kind, index, items, r.issued⟩)]

private theorem sent_request (w : World) (id : Text) (o : Instance) (r : Replica) (kind : RequestKind) (index : Int)
    (args : Value) (returnType? : Option Text) :
    ((request id o r kind index args returnType?).outcome w).2.sent = w.sent ∨
      ∃ node items, ((request id o r kind index args returnType?).outcome w).2.sent =
        w.sent ++ [(node, ⟨kind, index, items, r.issued⟩)] := by
  cases attached : r.node? with
  | none => simp [request, attached]
  | some node =>
    cases given : args.toItems with
    | error e => simp [request, attached, given]
    | ok items =>
      right
      refine ⟨node, items, ?_⟩
      cases returnType? <;>
        simp [request, attached, given, Act.issue, Replica.issue, Act.keepReplica, Act.keep, Act.openReply]

private theorem asks_invoke (ordinal : Nat) (params : List Text) (returnType? : Option Text) :
    Asks (.invoke ordinal params returnType?) .invokeMethod ordinal := by
  intro w id o r function args
  cases checked : checkArguments function params args with
  | error e => simp [runReplicaMethod, checked]
  | ok _ =>
    simpa [runReplicaMethod, checked] using sent_request w id o r .invokeMethod ordinal (.tuple args) returnType?

private theorem asks_write (ordinal : Nat) (param : Text) : Asks (.write ordinal param) .writeProperty ordinal := by
  intro w id o r function args
  cases checked : checkArguments function [param] args with
  | error e => simp [runReplicaMethod, checked]
  | ok _ => simpa [runReplicaMethod, checked] using sent_request w id o r .writeProperty ordinal (.tuple args) none

private theorem Asks.of_requests {m : Method} {kind : RequestKind} {index : Int}
    (asks : Asks m kind index) (distinct : i.MembersDistinct c) {request : Invocation}
    (bound : (name, .method m) ∈ i.replicaBindings c) (asked : i.Requests c name request) :
    request.kind = kind ∧ request.index = index := by
  obtain ⟨react, w, id, o, r, args, node, there, lineage, state, sent⟩ := asked
  have found := distinct.lookup?_replica bound
  rw [← lineage] at found
  simp only [callMember, Act.outcome_bind, Act.outcome_object w there, Act.outcome_found w found, Act.outcome_pure,
    runMethod, state] at sent
  rcases asks w id o r (Text.concat [c.replicaName, ".", name]) args with nothing | ⟨other, items, handed⟩
  · rw [nothing] at sent
    simp at sent
  · rw [handed] at sent
    simp only [List.append_cancel_left_eq, List.cons.injEq, Prod.mk.injEq, and_true] at sent
    rw [← sent.2]
    exact ⟨rfl, rfl⟩

theorem Interface.MembersDistinct.request_of_slot (distinct : i.MembersDistinct c) (declared : c.slots[k]? = some s)
    {request : Invocation}
    (asked : i.Requests c s.name.unreserved request) : request.kind = .invokeMethod ∧ request.index = k := by
  have numbered : (⟨k, s⟩ : NumberedMethod) ∈ c.ordinals.methods :=
    List.mem_iff_getElem?.mpr ⟨k, by simp [ClassDecl.ordinals, declared]⟩
  have bound : replicaSlotBinding ⟨k, s⟩ ∈ i.replicaBindings c :=
    List.mem_append_right _ (List.mem_map_of_mem numbered)
  exact (asks_invoke k _ _).of_requests distinct bound asked

theorem Interface.MembersDistinct.request_of_setter (distinct : i.MembersDistinct c)
    (declared : c.properties[k]? = some p) (writable : p.writable) {request : Invocation}
    (asked : i.Requests c p.setterName request) : request.kind = .writeProperty ∧ request.index = k := by
  have numbered : (⟨k, p⟩ : NumberedProperty) ∈ c.ordinals.properties :=
    List.mem_iff_getElem?.mpr ⟨k, by simp [ClassDecl.ordinals, declared]⟩
  refine (asks_write k p.name.unreserved).of_requests distinct ?_ asked
  refine List.mem_append_left _ (List.mem_append_right _ (List.mem_flatMap.mpr ⟨_, numbered, ?_⟩))
  simp [replicaPropertyBindings, writable]

/-! ## Bound descriptors -/

namespace Descriptor

theorem place_of_require {l : Lineage} {cls : Text} {what : Requirement} {names : List Text}
    {place : Int} (required : require l cls what names name = .ok place) :
    ∃ n : Nat, place = n ∧ names[n]? = some name := by
  unfold require at required
  split at required
  next n found =>
    obtain ⟨inside, same, -⟩ := List.findIdx?_eq_some_iff_getElem.mp found
    cases required
    exact ⟨n, rfl, by simpa [List.getElem?_eq_getElem inside] using same⟩
  next => cases required

/-- The tables of a descriptor come from the numbered members one by one. -/
structure Tabulates (i : Interface) (registry : Registry) (c : ClassDecl) (type : Lineage) (d : Descriptor) : Prop where
  properties : (c.ordinals.properties.mapM fun n =>
    require type c.name .property type.metaObject.properties n.property.name) = .ok d.properties
  signals : (c.ordinals.signals.mapM fun s => require type c.name .signal type.metaObject.signals s.name) = .ok d.signals
  methods : (c.ordinals.methods.mapM fun n => require type c.name .slot type.metaObject.methods n.slot.name) =
    .ok d.methods
  signalSignatures : (c.ordinals.signals.mapM fun s => s.signature.reread) = .ok d.signalSignatures
  methodSignatures : (c.ordinals.methods.mapM fun n => n.slot.signature.reread) = .ok d.methodSignatures
  returnTypes : (c.ordinals.methods.mapM fun n => n.slot.returnType.reread) = .ok d.returnTypes
  signalTypes : (c.ordinals.signals.mapM fun s => typeIds i registry c s.paramTypes) = .ok d.signalTypes
  methodTypes : (c.ordinals.methods.mapM fun n => typeIds i registry c n.slot.paramTypes) = .ok d.methodTypes
  changed : d.changed = c.ordinals.changes.filterMap (·.property?)
  name : d.name = c.name
  typeName : d.typeName = c.name

theorem tabulates_of_bind {registry : Registry} {type : Lineage} {d : Descriptor}
    (bound : bind i registry c type = .ok d) : Tabulates i registry c type d := by
  obtain ⟨properties, propertiesFound, bound⟩ := of_bind_ok bound
  obtain ⟨-, -, bound⟩ := of_bind_ok bound
  obtain ⟨signals, signalsFound, bound⟩ := of_bind_ok bound
  obtain ⟨methods, methodsFound, bound⟩ := of_bind_ok bound
  obtain ⟨signalSignatures, signalsRead, bound⟩ := of_bind_ok bound
  obtain ⟨methodSignatures, methodsRead, bound⟩ := of_bind_ok bound
  obtain ⟨returnTypes, returnsRead, bound⟩ := of_bind_ok bound
  obtain ⟨signalTypes, signalsTyped, bound⟩ := of_bind_ok bound
  obtain ⟨methodTypes, methodsTyped, bound⟩ := of_bind_ok bound
  cases bound
  exact ⟨propertiesFound, signalsFound, methodsFound, signalsRead, methodsRead, returnsRead, signalsTyped, methodsTyped,
    rfl, rfl, rfl⟩

theorem atIndex?_natCast (table : List α) (n : Nat) : atIndex? table n = table[n]? := by
  rw [atIndex?, if_neg (by omega), Int.toNat_natCast]

variable {registry : Registry} {type : Lineage} {d : Descriptor}

theorem count_of_bind (bound : bind i registry c type = .ok d) : d.count .method = c.slots.length := by
  have related := forall₂_of_mapM_ok (tabulates_of_bind bound).methods
  simpa [count, table, ClassDecl.ordinals] using related.length_eq.symm

/-- An ordinal of a slot leads to the method of its name, in whatever type the descriptor is bound to. -/
theorem method_of_bind (bound : bind i registry c type = .ok d) (declared : c.slots[k]? = some s) :
    atIndex? type.metaObject.methods (d.sourceIndex .method k) = some s.name := by
  have numbered : c.ordinals.methods[k]? = some ⟨k, s⟩ := by simp [ClassDecl.ordinals, declared]
  obtain ⟨place, there, required⟩ := getElem?_of_mapM_ok (tabulates_of_bind bound).methods numbered
  obtain ⟨n, rfl, found⟩ := place_of_require required
  rw [sourceIndex, table, numberAt, atIndex?_natCast, there, Option.getD_some, atIndex?_natCast, found]

theorem property_of_bind (bound : bind i registry c type = .ok d) (declared : c.properties[k]? = some p) :
    atIndex? type.metaObject.properties (d.sourceIndex .property k) = some p.name := by
  have numbered : c.ordinals.properties[k]? = some ⟨k, p⟩ := by simp [ClassDecl.ordinals, declared]
  obtain ⟨place, there, required⟩ := getElem?_of_mapM_ok (tabulates_of_bind bound).properties numbered
  obtain ⟨n, rfl, found⟩ := place_of_require required
  rw [sourceIndex, table, numberAt, atIndex?_natCast, there, Option.getD_some, atIndex?_natCast, found]

/-- The text in a table of texts that are read back. -/
private theorem textAt_of_reread {f : NumberedMethod → Text} {texts : List Text}
    (read : (c.ordinals.methods.mapM fun n => (f n).reread) = .ok texts)
    (declared : c.slots[k]? = some s) :
    textAt texts k = f ⟨k, s⟩ ↔ (f ⟨k, s⟩).reread = .ok (f ⟨k, s⟩) := by
  have numbered : c.ordinals.methods[k]? = some ⟨k, s⟩ := by simp [ClassDecl.ordinals, declared]
  obtain ⟨text, there, same⟩ := getElem?_of_mapM_ok read numbered
  rw [textAt, atIndex?_natCast, there, Option.getD_some, same, Except.ok.injEq]

theorem methodSignature_of_bind (bound : bind i registry c type = .ok d) (declared : c.slots[k]? = some s) :
    d.methodSignature k = s.signature ↔ s.signature.reread = .ok s.signature :=
  textAt_of_reread (tabulates_of_bind bound).methodSignatures declared

theorem returnType_of_bind (bound : bind i registry c type = .ok d) (declared : c.slots[k]? = some s) :
    d.returnType k = s.returnType ↔ s.returnType.reread = .ok s.returnType :=
  textAt_of_reread (tabulates_of_bind bound).returnTypes declared

end Descriptor

/-! ## Texts that are read back -/

/-- The text holds nothing that means something between double quotes. -/
def Text.IsBare (t : Text) : Prop :=
  ∀ c ∈ t, c ≠ '"' ∧ c ≠ '\\' ∧ c ≠ '\n' ∧
    c ≠ '\r' ∧ c ≠ CodePoint.absent

instance (t : Text) : Decidable t.IsBare := List.decidableBAll _ t

namespace Text

theorem shown_of_notMem (given : CodePoint.absent ∉ t) : t.shown = t := by
  induction t with
  | nil => rfl
  | cons c rest ih =>
    obtain ⟨first, later⟩ := not_or.mp (List.mem_cons.not.mp given)
    have restShown := ih later
    rw [shown] at restShown
    rw [shown, List.flatMap_cons, restShown, if_neg (Ne.symm first)]
    rfl

theorem shown_of_isBare (bare : t.IsBare) : t.shown = t :=
  shown_of_notMem fun absent => (bare _ absent).2.2.2.2 rfl

theorem unifyLines_of_noReturn (noReturn : ∀ c ∈ t, c ≠ '\r') : t.unifyLines = t := by
  fun_induction unifyLines t with
  | case1 => rfl
  | case2 => simp at noReturn
  | case3 => rfl
  | case4 => simp at noReturn
  | case5 => simp at noReturn
  | case6 c d rest _ ih => rw [ih fun x there => noReturn x (List.mem_cons_of_mem _ there)]

private theorem body_of_isBare (bare : t.IsBare) :
    Literal.body false (CodePoint.ofChar '"') (t ++ [CodePoint.ofChar '"']) = some (t, []) := by
  induction t with
  | nil => rfl
  | cons c rest ih =>
    obtain ⟨⟨noQuote, noSlash, noLine, -⟩, later⟩ := List.forall_mem_cons.mp bare
    rw [List.cons_append, Literal.body.eq_def]
    simp [noQuote, noSlash, noLine, ih later]

private theorem unescape_of_isBare (bare : t.IsBare) {fuel : Nat} (enough : t.length < fuel) :
    Literal.unescape false fuel t = some t := by
  induction t generalizing fuel with
  | nil => cases fuel <;> simp_all [Literal.unescape]
  | cons c rest ih =>
    obtain ⟨⟨-, noSlash, -⟩, later⟩ := List.forall_mem_cons.mp bare
    cases fuel with
    | zero => simp at enough
    | succ fuel => simp [Literal.unescape, noSlash, ih later (by simpa using enough)]

theorem reread_of_isBare (bare : t.IsBare) : t.reread = .ok t := by
  have lines : t.doubleQuoted.unifyLines = t.doubleQuoted := by
    apply unifyLines_of_noReturn
    intro c there
    rcases List.mem_cons.mp there with rfl | there
    · decide
    · rcases List.mem_append.mp there with there | there
      · exact (bare c there).2.2.2.1
      · rw [List.mem_singleton.mp there]
        decide
  have single : startsWith [CodePoint.ofChar '"', CodePoint.ofChar '"'] (t ++ [CodePoint.ofChar '"']) = false := by
    cases t with
    | nil => rfl
    | cons c rest => simp [startsWith, after?, Ne.symm (bare c (by simp)).1]
  have noLetters : t.doubleQuoted.takeWhile (·.isAsciiLetter) = [] := rfl
  have read : Literal.quotation? t.doubleQuoted = some (.text t, []) := by
    rw [Literal.quotation?, noLetters]
    simp [doubleQuoted, Literal.quoteMarks?, single, body_of_isBare bare, unescape_of_isBare bare]
  rw [reread, shown_of_isBare bare, lines, read]

/-- Escapes are not read back. -/
example : (reread "f(x\\ty)").toOption = some "f(x\ty)" := by decide +kernel

end Text

/-! ## Agreement -/

private theorem eq_of_same_name {name : α → Text} {members : List α} (distinct : (members.map name).Nodup)
    {l : Nat} {a b : α} (first : members[k]? = some a) (second : members[l]? = some b)
    (same : name a = name b) : k = l := by
  have inside : k < (members.map name).length := by simpa using (List.getElem?_eq_some_iff.mp first).1
  exact (List.getElem?_inj inside distinct).mp (by simp [first, second, same])

/-- Whatever type a descriptor is bound to, a request of a replica leads to the member that it was made for. What
the descriptor tells of a slot is what was declared exactly where that is read back as it is written. -/
theorem Descriptor.serves_requests {i : Interface} {c : ClassDecl} (distinct : i.MembersDistinct c)
    {registry : Registry} {type : Lineage} {d : Descriptor} (bound : bind i registry c type = .ok d) :
    (∀ s ∈ c.slots, ∀ request, i.Requests c s.name.unreserved request → request.kind = .invokeMethod →
      0 ≤ request.index ∧ request.index < d.count .method ∧
      atIndex? type.metaObject.methods (d.sourceIndex .method request.index) = some s.name ∧
      (d.methodSignature request.index = s.signature ↔ s.signature.reread = .ok s.signature) ∧
      (d.returnType request.index = s.returnType ↔ s.returnType.reread = .ok s.returnType)) ∧
    (∀ p ∈ c.properties, p.writable → ∀ request, i.Requests c p.setterName request →
      request.kind = .writeProperty →
      atIndex? type.metaObject.properties (d.sourceIndex .property request.index) = some p.name) ∧
    (∀ k l : Nat, k < c.slots.length → l < c.slots.length →
      d.sourceIndex .method k = d.sourceIndex .method l → k = l) ∧
    (∀ k l : Nat, k < c.properties.length → l < c.properties.length →
      d.sourceIndex .property k = d.sourceIndex .property l → k = l) := by
  refine ⟨?_, ?_, ?_, ?_⟩
  · intro s declared request asked _
    obtain ⟨k, numbered⟩ := List.mem_iff_getElem?.mp declared
    have inside : k < c.slots.length := (List.getElem?_eq_some_iff.mp numbered).1
    rw [(distinct.request_of_slot numbered asked).2, count_of_bind bound]
    exact ⟨by omega, by omega, method_of_bind bound numbered, methodSignature_of_bind bound numbered,
      returnType_of_bind bound numbered⟩
  · intro p declared writable request asked _
    obtain ⟨k, numbered⟩ := List.mem_iff_getElem?.mp declared
    rw [(distinct.request_of_setter numbered writable asked).2]
    exact property_of_bind bound numbered
  · intro k l inside alsoInside same
    have first := method_of_bind bound (List.getElem?_eq_getElem inside)
    rw [same, method_of_bind bound (List.getElem?_eq_getElem alsoInside), Option.some.injEq] at first
    exact eq_of_same_name distinct.slots (List.getElem?_eq_getElem inside) (List.getElem?_eq_getElem alsoInside)
      first.symm
  · intro k l inside alsoInside same
    have first := property_of_bind bound (List.getElem?_eq_getElem inside)
    rw [same, property_of_bind bound (List.getElem?_eq_getElem alsoInside), Option.some.injEq] at first
    exact eq_of_same_name distinct.properties (List.getElem?_eq_getElem inside)
      (List.getElem?_eq_getElem alsoInside) first.symm

def resetSlot : Operation where
  name := "reset"
  params := [⟨"int", "level"⟩]
  returnType := "bool"

def meter : ClassDecl where
  name := "Meter"
  properties := [{ type := "int", name := "level" }]
  slots := [{ name := "log", params := [], returnType := "void" }, resetSlot]

def meterUnit : Interface where
  classes := [meter]

/-- A type that stands for the class: the slots are there, and another method before them. -/
def meterType : Lineage :=
  (meterUnit.simpleSourceLineage meter).implement [("check", .none), ("reset", .truth true), ("log", .none)]

private theorem meter_requests : meterUnit.Requests meter "reset" ⟨.invokeMethod, 1, [.integer 7], 0⟩ := by
  refine ⟨fun _ _ => pure (), { objects := [("m", {
    lineage := meterUnit.replicaLineage meter, state := .replica { name := "m", node? := some "n" } })] },
    "m", _, _, [.integer 7], "n", rfl, rfl, rfl, ?_⟩
  rfl

theorem Descriptor.serves_requests_meter :
    ∃ d, bind meterUnit {} meter meterType = .ok d ∧
      atIndex? meterType.metaObject.methods (d.sourceIndex .method 1) = some "reset" ∧
      d.methodSignature 1 = "reset(int)" := by
  have distinct : meterUnit.MembersDistinct meter := ⟨by decide, by decide⟩
  have conforms : (bind meterUnit {} meter meterType).isOk := by decide +kernel
  cases bound : bind meterUnit {} meter meterType with
  | error e => simp [bound, Except.isOk, Except.toBool] at conforms
  | ok d =>
    have served := (serves_requests distinct bound).1 resetSlot (by simp [meter]) _ meter_requests rfl
    refine ⟨d, rfl, served.2.2.1, served.2.2.2.1.mpr ?_⟩
    exact Text.reread_of_isBare (by decide)

end Counterpart
