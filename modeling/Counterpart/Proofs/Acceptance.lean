import Counterpart.Proofs.Clashes

/-!
Which interfaces are accepted. The rules for declarations are stated here by themselves, whatever the order in which
they are checked. Main statement: an interface is accepted exactly if it obeys them all, and where it is not, the rule
reported is one that it breaks. A name that is reported as repeated is the repeated one that comes first.
-/
namespace Counterpart

variable {rule : Rejection → Prop} {α β : Type}

/-! ## Rules -/

/-- The name comes again later, and none of the names before it does. -/
def FirstRepeated {α : Type} (names : List α) (name : α) : Prop :=
  ∃ before later, names = before ++ name :: later ∧ name ∈ later ∧ before.Nodup ∧
    ∀ other ∈ before, other ∉ name :: later

structure EnumDecl.WellFormed (e : EnumDecl) : Prop where
  populated : e.enumerators ≠ []
  distinct : (e.enumerators.map (·.name)).Nodup

/-- The rules for an enum that a report says to be broken. -/
inductive EnumDecl.Breaks (scope : Text) (e : EnumDecl) : Rejection → Prop
  | empty (none : e.enumerators = []) : Breaks scope e (.emptyEnum (scope ++ e.name))
  | repeated {name : Text} (first : FirstRepeated (e.enumerators.map (·.name)) name) :
    Breaks scope e (.repeatedEnumerator (scope ++ e.name) name)

/-- The name is one that replicas have already, or starts with an underscore. -/
def Text.Taken (name : Text) : Prop := name = "node" ∨ name = "set_property" ∨ ("_" : Text) <+: name

namespace ClassDecl

def memberNames (c : ClassDecl) : List Text :=
  c.properties.map (·.name) ++ c.signals.map (·.name) ++ c.slots.map (·.name)

structure WellFormed (c : ClassDecl) : Prop where
  members : c.memberNames.Nodup
  enums : c.enumNames.Nodup
  changes : ∀ p ∈ c.properties, p.access ≠ .constant → p.name ++ "Changed" ∉ c.signalNames
  free : ∀ name ∈ c.memberNames, ¬ name.Taken
  params : ∀ op ∈ c.signals ++ c.slots, op.paramNames.Nodup
  returns : ∀ s ∈ c.signals, s.returnType = "void"
  enumerators : ∀ e ∈ c.enums, e.WellFormed

/-- The names of the members and enums of a class by kind. -/
inductive Lists (c : ClassDecl) : Text → List Text → Prop
  | properties : Lists c "property" (c.properties.map (·.name))
  | signals : Lists c "signal" c.signalNames
  | slots : Lists c "slot" (c.slots.map (·.name))
  | enums : Lists c "enum" c.enumNames

inductive Breaks (c : ClassDecl) : Rejection → Prop
  | kind {kind name : Text} {names : List Text} (listed : c.Lists kind names) (first : FirstRepeated names name) :
    Breaks c (.repeatedMember c.name kind name)
  | change {p : Property} (declared : p ∈ c.properties) (notifies : p.access ≠ .constant)
    (clash : p.name ++ "Changed" ∈ c.signalNames) : Breaks c (.declaredChange c.name (p.name ++ "Changed") p.name)
  | shared {name : Text} (first : FirstRepeated c.memberNames name) : Breaks c (.sharedName c.name name)
  | taken {name : Text} (member : name ∈ c.memberNames) (taken : name.Taken) : Breaks c (.reservedName c.name name)
  | slot {op : Operation} {name : Text} (declared : op ∈ c.slots) (first : FirstRepeated op.paramNames name) :
    Breaks c (.repeatedParameter "Slot" c.name op.name name)
  | signal {op : Operation} {name : Text} (declared : op ∈ c.signals) (first : FirstRepeated op.paramNames name) :
    Breaks c (.repeatedParameter "Signal" c.name op.name name)
  | returns {op : Operation} (declared : op ∈ c.signals) (returns : op.returnType ≠ "void") :
    Breaks c (.returningSignal c.name op.name)
  | enum {e : EnumDecl} {r : Rejection} (declared : e ∈ c.enums) (broken : e.Breaks (c.name ++ "::") r) : Breaks c r

end ClassDecl

namespace Interface

def declaredNames (i : Interface) : List Text :=
  i.classes.map (·.name) ++ i.records.map (·.name) ++ i.enums.map (·.name)

structure WellFormed (i : Interface) : Prop where
  names : i.declaredNames.Nodup
  enums : ∀ e ∈ i.enums, e.WellFormed
  records : ∀ r ∈ i.records, (r.attributes.map (·.name)).Nodup
  classes : ∀ c ∈ i.classes, c.WellFormed

inductive Breaks (i : Interface) : Rejection → Prop
  | names {name : Text} (first : FirstRepeated i.declaredNames name) : Breaks i (.repeatedDeclaration name)
  | enum {e : EnumDecl} {r : Rejection} (declared : e ∈ i.enums) (broken : e.Breaks [] r) : Breaks i r
  | record {d : RecordDecl} {name : Text} (declared : d ∈ i.records)
    (first : FirstRepeated (d.attributes.map (·.name)) name) : Breaks i (.repeatedAttribute d.name name)
  | inClass {c : ClassDecl} {r : Rejection} (declared : c ∈ i.classes) (broken : c.Breaks r) : Breaks i r

end Interface

/-! ## Repetitions -/

theorem firstRepeated_of_repeated [BEq α] [LawfulBEq α] {names rest : List α} {name : α}
    (found : repeated names = name :: rest) : FirstRepeated names name := by
  obtain ⟨skipped, others, listed, once, twice, -⟩ := List.filter_eq_cons_iff.mp found
  have among : name ∈ names := List.mem_eraseDups.mp (by simp [listed])
  obtain ⟨before, later, rfl, new⟩ := List.eq_append_cons_of_mem among
  have kept : before.eraseDups = skipped := by
    rw [List.eraseDups_append, List.cons_removeAll, if_pos (by simpa using new), List.eraseDups_cons] at listed
    exact ((List.append_cons_inj_of_notMem (by simpa using new) (by simp)).mp listed).1
  have single (other : α) (there : other ∈ before) : (before ++ name :: later).count other ≤ 1 := by
    have few := once other (kept ▸ List.mem_eraseDups.mpr there)
    simpa using few
  refine ⟨before, later, rfl, ?_, List.nodup_iff_count_le_one.mpr fun other => ?_, fun other there again => ?_⟩
  · rw [List.count_append, List.count_eq_zero.mpr new, List.count_cons_self] at twice
    exact List.count_pos_iff.mp (by simpa using twice)
  · by_cases there : other ∈ before
    · have few := single other there
      rw [List.count_append] at few
      omega
    · rw [List.count_eq_zero.mpr there]
      omega
  · have few := single other there
    have first := List.count_pos_iff.mpr there
    have second := List.count_pos_iff.mpr again
    rw [List.count_append] at few
    omega

theorem FirstRepeated.not_nodup {names : List α} {name : α} (first : FirstRepeated names name) : ¬ names.Nodup := by
  obtain ⟨before, later, rfl, again, -, -⟩ := first
  exact fun distinct => (List.nodup_cons.mp distinct.of_append_right).1 again

theorem FirstRepeated.of_map {f : α → β} {names : List α} {image : β} (injective : f.Injective)
    (first : FirstRepeated (names.map f) image) : ∃ name, image = f name ∧ FirstRepeated names name := by
  obtain ⟨_, _, split, again, distinct, apart⟩ := first
  obtain ⟨before, after, rfl, rfl, cut⟩ := List.map_eq_append_iff.mp split
  obtain ⟨name, later, rfl, rfl, rfl⟩ := List.map_eq_cons_iff.mp cut
  rw [List.mem_map_of_injective injective] at again
  refine ⟨name, rfl, before, later, rfl, again, distinct.of_map f, fun other there => ?_⟩
  have differs := apart (f other) (List.mem_map_of_mem there)
  rwa [← List.map_cons, List.mem_map_of_injective injective] at differs

/-! ## Checks -/

namespace Draft

/-- Either the check passes and what it is for holds, or it reports a broken rule and that does not hold. -/
inductive Decides (good : Prop) (broken : Rejection → Prop) : Except LoadError Unit → Prop
  | accepts (holds : good) : Decides good broken (.ok ())
  | refuses {r : Rejection} (breaks : broken r) (fails : ¬ good) : Decides good broken (.error (.rejected r))

namespace Decides

variable {good other : Prop} {broken : Rejection → Prop} {check next : Except LoadError Unit}

theorem andThen (first : Decides good broken check) (second : Decides other broken next) :
    Decides (good ∧ other) broken (check >>= fun _ => next) := by
  cases first with
  | refuses breaks fails => exact .refuses breaks fun both => fails both.1
  | accepts holds =>
    cases second with
    | refuses breaks fails => exact .refuses breaks fun both => fails both.2
    | accepts alsoHolds => exact .accepts ⟨holds, alsoHolds⟩

theorem imp (decides : Decides good broken check) (same : good ↔ other)
    (weaker : ∀ r, broken r → rule r) : Decides other rule check := by
  cases decides with
  | accepts holds => exact .accepts (same.mp holds)
  | refuses breaks fails => exact .refuses (weaker _ breaks) fun holds => fails (same.mpr holds)

theorem forM {each : α → Prop} {f : β → Except LoadError Unit} {g : α → β} {items : List α}
    (decides : ∀ a ∈ items, Decides (each a) broken (f (g a))) :
    Decides (∀ a ∈ items, each a) broken ((items.map g).forM f) := by
  induction items with
  | nil => exact .accepts (by simp)
  | cons first rest ih =>
    have all := (decides first (by simp)).andThen (ih fun a there => decides a (by simp [there]))
    exact all.imp List.forall_mem_cons.symm fun _ => id

end Decides

private theorem required_full (f : α → β) (items : List α) : required (Items.full f items) = .ok (items.map f) := by
  induction items with
  | nil => rfl
  | cons first rest ih =>
    simp only [required, Items.full] at ih ⊢
    rw [List.map_cons, List.mapM_cons, ih]
    rfl

/-- Names that have to differ are checked one list at a time. -/
private theorem decides_distinct {names : List Text} {reject : Text → Rejection}
    (breaks : ∀ name, FirstRepeated names name → rule (reject name)) :
    Decides names.Nodup rule (distinct (names.map some) reject) := by
  rw [distinct]
  split
  next none => exact .accepts ((nodup_of_repeated_eq_nil none).of_map some)
  next image _ found =>
    obtain ⟨name, rfl, first⟩ := (firstRepeated_of_repeated found).of_map fun _ _ => Option.some.inj
    exact .refuses (breaks name first) first.not_nodup

private theorem decides_enum (scope : Text) (e : Counterpart.EnumDecl) :
    Decides e.WellFormed (e.Breaks scope) ((EnumDecl.full e).check scope) := by
  have repeated : ∀ name, FirstRepeated (e.enumerators.map (·.name)) name →
      e.Breaks scope (.repeatedEnumerator (scope ++ e.name) name) := fun _ first => .repeated first
  have differ := decides_distinct repeated
  have empty : ((EnumDecl.full e).enumerators.getD []).isEmpty = e.enumerators.isEmpty := by
    simp [EnumDecl.full, Items.full]
  simp only [EnumDecl.check, empty]
  split
  next noneThere =>
    have none : e.enumerators = [] := List.isEmpty_iff.mp noneThere
    exact .refuses (.empty none) fun formed => formed.populated none
  next populated =>
    have some : e.enumerators ≠ [] := by simpa using populated
    simp only [EnumDecl.full, required_full, ok_bind, List.map_map, Function.comp_def, Enumerator.full] at differ ⊢
    exact differ.imp ⟨fun distinct => ⟨some, distinct⟩, (·.distinct)⟩ fun _ => id

private theorem decides_record (r : Counterpart.RecordDecl)
    (breaks : ∀ name, FirstRepeated (r.attributes.map (·.name)) name → rule (.repeatedAttribute r.name name)) :
    Decides (r.attributes.map (·.name)).Nodup rule (RecordDecl.full r).check := by
  have checked := decides_distinct breaks
  simpa [RecordDecl.check, RecordDecl.full, required_full, shown, Parameter.full, Function.comp_def] using checked

private theorem decides_params (kind cls : Text) (op : Counterpart.Operation)
    (breaks : ∀ name, FirstRepeated op.paramNames name → rule (.repeatedParameter kind cls op.name name)) :
    Decides op.paramNames.Nodup rule ((Operation.full op).checkParams kind cls) := by
  have checked := decides_distinct breaks
  simpa [Operation.checkParams, Operation.full, required_full, shown, Parameter.full, Function.comp_def,
    Operation.paramNames] using checked

theorem startsWith_iff (start t : Text) : Text.startsWith start t ↔ start <+: t := by
  rw [Text.startsWith]
  fun_induction Text.after? start t with
  | case1 => simp
  | case2 => simp
  | case3 c start t ih => simpa using ih
  | case4 c start d t different => simp [different]

private theorem decides_name {cls name : Text} (breaks : name.Taken → rule (.reservedName cls name)) :
    Decides (¬ name.Taken) rule (checkMemberName cls (some name)) := by
  have taken : isReserved name ↔ name.Taken := by
    simp [isReserved, reservedNames, Text.Taken, startsWith_iff, or_assoc]
  rw [checkMemberName]
  split
  next isTaken => exact .refuses (breaks (taken.mp isTaken)) fun free => free (taken.mp isTaken)
  next free => exact .accepts fun isTaken => free (taken.mpr isTaken)

private theorem decides_change {c : Counterpart.ClassDecl} {p : Counterpart.Property} (declared : p ∈ c.properties) :
    Decides (p.access ≠ .constant → p.name ++ "Changed" ∉ c.signalNames) c.Breaks
      (Property.checkChange c.name (c.signals.map Operation.full) (Property.full p)) := by
  have clashes : ((Property.full p).notifies && (c.signals.map Operation.full).any
      (·.name = some (Property.full p).changeName)) ↔ p.access ≠ .constant ∧ p.name ++ "Changed" ∈ c.signalNames := by
    simp [Property.notifies, Property.full, Operation.full, Property.changeName, shown, ClassDecl.signalNames]
  rw [Property.checkChange]
  split
  next clash =>
    obtain ⟨notifies, listed⟩ := clashes.mp clash
    exact .refuses (.change declared notifies listed) fun free => free notifies listed
  next free => exact .accepts fun notifies listed => free (clashes.mpr ⟨notifies, listed⟩)

private theorem decides_void {c : Counterpart.ClassDecl} {op : Counterpart.Operation} (declared : op ∈ c.signals) :
    Decides (op.returnType = "void") c.Breaks ((Operation.full op).checkVoid c.name) := by
  by_cases void : op.returnType = "void"
  · simpa [Operation.checkVoid, Operation.full, void] using Decides.accepts void
  · simpa [Operation.checkVoid, Operation.full, void, shown] using
      Decides.refuses (ClassDecl.Breaks.returns declared void) void

private theorem map_name_enums (enums : List Counterpart.EnumDecl) :
    (enums.map EnumDecl.full).map (·.name) = (enums.map (·.name)).map some := by
  simp [EnumDecl.full]

private theorem decides_class (c : Counterpart.ClassDecl) : Decides c.WellFormed c.Breaks (ClassDecl.full c).check := by
  have kinds {kind : Text} {names : List Text} (listed : c.Lists kind names) :
      Decides names.Nodup c.Breaks (distinct (names.map some) (.repeatedMember c.name kind)) :=
    decides_distinct fun name first => .kind listed first
  have properties : (c.properties.map Property.full).map (·.name) = (c.properties.map (·.name)).map some := by
    simp [Property.full]
  have operations (ops : List Counterpart.Operation) :
      (ops.map Operation.full).map (·.name) = (ops.map (·.name)).map some := by
    simp [Operation.full]
  simp only [ClassDecl.check, ClassDecl.full, required_full, ok_bind]
  rw [properties, operations, operations, map_name_enums, ← List.map_append, ← List.map_append]
  refine Decides.imp ((kinds .properties).andThen <| (kinds .signals).andThen <| (kinds .slots).andThen <|
    (kinds .enums).andThen <| (Decides.forM fun p declared => decides_change declared).andThen <|
    (decides_distinct fun name first => .shared first).andThen <|
    (Decides.forM fun name member => decides_name fun taken => .taken member taken).andThen <|
    (Decides.forM fun op declared => decides_params "Slot" c.name op fun name first => .slot declared first).andThen <|
    (Decides.forM fun op declared => (decides_params "Signal" c.name op fun name first =>
      .signal declared first).andThen (decides_void declared)).andThen <|
    Decides.forM fun e declared => (decides_enum _ e).imp .rfl fun _ => .enum declared) ?_ fun _ => id
  constructor
  · rintro ⟨-, -, -, enums, changes, members, free, slots, signals, enumerators⟩
    refine ⟨members, enums, changes, free, ?_, fun op declared => (signals op declared).2, enumerators⟩
    intro op declared
    rcases List.mem_append.mp declared with isSignal | isSlot
    · exact (signals op isSignal).1
    · exact slots op isSlot
  · rintro ⟨members, enums, changes, free, params, returns, enumerators⟩
    have slots := members.of_append_right
    have others := members.of_append_left
    refine ⟨others.of_append_left, others.of_append_right, slots, enums, changes, members, free, ?_, ?_, enumerators⟩
    · exact fun op declared => params op (List.mem_append_right _ declared)
    · exact fun op declared => ⟨params op (List.mem_append_left _ declared), returns op declared⟩

private theorem decides_check (i : Interface) : Decides i.WellFormed i.Breaks (ofInterface i).check := by
  have classes : (i.classes.map ClassDecl.full).map (·.name) = (i.classes.map (·.name)).map some := by
    simp [ClassDecl.full]
  have records : (i.records.map RecordDecl.full).map (·.name) = (i.records.map (·.name)).map some := by
    simp [RecordDecl.full]
  simp only [check, ofInterface, required_full, ok_bind]
  rw [classes, records, map_name_enums, ← List.map_append, ← List.map_append]
  refine Decides.imp ((decides_distinct fun name first => .names first).andThen <|
    (Decides.forM fun e declared => (decides_enum [] e).imp .rfl fun _ => .enum declared).andThen <|
    (Decides.forM fun r declared => decides_record r fun name first => .record declared first).andThen <|
    Decides.forM fun c declared => (decides_class c).imp .rfl fun _ => .inClass declared) ?_ fun _ => id
  constructor
  · rintro ⟨names, enums, records, classes⟩
    exact ⟨names, enums, records, classes⟩
  · rintro ⟨names, enums, records, classes⟩
    exact ⟨names, enums, records, classes⟩

theorem wellFormed_of_check {i : Interface} (accepted : (ofInterface i).check = .ok ()) : i.WellFormed := by
  have decided := decides_check i
  rw [accepted] at decided
  cases decided with
  | accepts holds => exact holds

/-- Exactly the well-formed interfaces are accepted. Where one is not, a rule that it breaks is reported. -/
theorem accepts_iff_wellFormed (i : Interface) :
    ((ofInterface i).check = .ok () ↔ i.WellFormed) ∧
      ((ofInterface i).check = .ok () ∨
        ∃ r, (ofInterface i).check = .error (.rejected r) ∧ (LoadError.rejected r).kind = .invalid ∧ i.Breaks r) := by
  have decided := decides_check i
  generalize (ofInterface i).check = checked at decided
  cases decided with
  | accepts holds => exact ⟨by simp [holds], .inl rfl⟩
  | @refuses r breaks fails => exact ⟨by simp [fails], .inr ⟨r, rfl, rfl, breaks⟩⟩

end Draft

end Counterpart
