import Counterpart.Draft.Check
import Counterpart.Proofs.Sides

/-!
The types that a header registers. One list of them is made for the unit, under the names that the classes mention, and
stands in the constructors of all classes. So a class registers an enum of another class under its bare name, which is not
in scope there.
-/
namespace Counterpart

variable {c : ClassDecl} {i : Interface} {mode : Mode} {type : Text}

/-! ## Types of a unit -/

namespace Interface

/-- The type is a record, or some class mentions it and it is not builtin. -/
def NeedsRegistration (i : Interface) (type : Text) : Prop :=
  type ∈ i.records.map (·.name) ∨ ∃ c ∈ i.classes, type ∈ c.mentions ∧ ¬ Builtin.isBuiltin type

/-- Some class declares an enum of that name, and nothing outside the classes has it. -/
def OnlyScoped (i : Interface) (name : Text) : Prop :=
  (∃ c ∈ i.classes, c.hasEnum name) ∧
    name ∉ i.records.map (·.name) ∧ name ∉ i.enums.map (·.name) ∧ name ∉ i.usedEnums

theorem mem_metatypes_bare_iff : type ∈ i.metatypes (fun _ t => t) ↔ i.NeedsRegistration type := by
  simp [metatypes, NeedsRegistration]

end Interface

/-! ## Lines of a header -/

theorem Text.written_infix {part whole : List Text} (inside : part <:+: whole) :
    Text.written part <:+: Text.written whole := by
  obtain ⟨before, after, rfl⟩ := inside
  exact ⟨Text.written before, Text.written after, by simp⟩

def Mode.writes (mode : Mode) : QtHeader.Role → Bool
  | .replica => mode.hasReplica
  | _ => mode.hasSource

namespace QtHeader

variable {role : Role}

def registerLine (type : Text) : Text := "        " ++ Text.concat ["qRegisterMetaType<", type, ">();"]

/-- The constructor of a role, or the function that initializes a replica, after what comes before it in the class. -/
def initializer (i : Interface) (c : ClassDecl) (role : Role) : List Text :=
  Text.blocks [roleOpening c role, ["    \x7b"], roleBody i c role, ["    \x7d"]]

-- A line that registers a type is told from the other lines of a constructor by single characters.

theorem registerLine_ne {text : Text} (n : Nat) {own other : CodePoint} (here : (registerLine type)[n]? = some own)
    (there : text[n]? = some other) (differs : own ≠ other) : registerLine type ≠ text := by
  rintro rfl
  exact differs (Option.some.inj (here.symm.trans there))

theorem registered_iff :
    (∃ line ∈ registrationLines i, ("        " : Text) ++ line = registerLine type) ↔ i.NeedsRegistration type := by
  rw [← Interface.mem_metatypes_bare_iff]
  constructor
  · rintro ⟨line, among, same⟩
    rcases List.mem_append.mp among with metatype | used
    · obtain ⟨name, needed, isLine⟩ := List.mem_flatMap.mp metatype
      rcases List.mem_pair.mp isLine with rfl | rfl
      · have sameName : type = name := by simpa [registerLine, Text.concat] using same.symm
        exact sameName ▸ needed
      · exact absurd same.symm (registerLine_ne 25 rfl rfl (by decide))
    · obtain ⟨name, -, rfl⟩ := List.mem_map.mp used
      exact absurd same.symm (registerLine_ne 25 rfl rfl (by decide))
  · intro needed
    exact ⟨_, List.mem_append_left _ (List.mem_flatMap.mpr ⟨type, needed, List.mem_cons_self⟩), rfl⟩

theorem registerLine_notMem_replicaDefaults : registerLine type ∉ replicaDefaults c := by
  intro among
  simp only [replicaDefaults, Text.blocks, List.mem_flatten, List.mem_cons, List.not_mem_nil, or_false] at among
  obtain ⟨block, rfl | rfl | rfl, among⟩ := among
  · rcases List.mem_pair.mp among with same | same <;> exact registerLine_ne 8 rfl rfl (by decide) same
  · obtain ⟨p, -, same⟩ := List.mem_map.mp among
    exact registerLine_ne 8 rfl rfl (by decide) same.symm
  · exact registerLine_ne 8 rfl rfl (by decide) (List.mem_singleton.mp among)

/-- A constructor registers the types of the whole unit. -/
theorem registerLine_mem_roleBody_iff : registerLine type ∈ roleBody i c role ↔ i.NeedsRegistration type := by
  have notDefault : registerLine type ∉ if role = .replica then replicaDefaults c else [] := by
    split
    next => exact registerLine_notMem_replicaDefaults
    next => exact List.not_mem_nil
  rw [roleBody, Text.blocks, ← registered_iff]
  simp [notDefault]

/-- The classes that play the roles of a class stand in the headers that have its roles. -/
theorem roleClass_infix_render (file? : Option Text) (declared : c ∈ i.classes) (written : mode.writes role) :
    Text.written (roleClass i c role) <:+: render i mode file? := by
  have inSides : roleClass i c role <:+: sides i mode c := by
    cases role with
    | replica =>
      rw [sides, if_pos (show mode.hasReplica from written)]
      exact (List.prefix_append _ _).isInfix
    | source =>
      rw [sides, if_pos (show mode.hasSource from written)]
      exact (List.prefix_append _ _).isInfix.trans (List.suffix_append _ _).isInfix
    | simpleSource =>
      rw [sides, if_pos (show mode.hasSource from written)]
      exact List.IsInfix.trans ⟨roleClass i c .source, sourceApi i c, by simp [sourceSide, Text.blocks]⟩
        (List.suffix_append _ _).isInfix
  have inClasses : sides i mode c <:+: i.classes.flatMap (sides i mode) :=
    List.infix_of_mem_flatten (List.mem_map_of_mem declared)
  exact Text.written_infix (inSides.trans (inClasses.trans (List.infix_of_mem_flatten (by simp))))

theorem initializer_infix_render (file? : Option Text) (declared : c ∈ i.classes) (written : mode.writes role) :
    Text.written (initializer i c role) <:+: render i mode file? := by
  have inClass : initializer i c role <+: roleClass i c role := by
    simp [initializer, roleClass, Text.blocks]
  exact (Text.written_infix inClass.isInfix).trans (roleClass_infix_render file? declared written)

/-- Every constructor registers the records and the types that any class mentions, under these names. So a class registers
no enum of another class under its bare name just if it declares all class enums that are mentioned in the unit. -/
theorem registered_in_scope_iff (i : Interface) (mode : Mode) (file? : Option Text) {c : ClassDecl}
    (declared : c ∈ i.classes) :
    (∀ role, mode.writes role → Text.written (initializer i c role) <:+: render i mode file?) ∧
    (∀ role name, registerLine name ∈ roleBody i c role ↔ i.NeedsRegistration name) ∧
    ((∀ role name, registerLine name ∈ roleBody i c role → i.OnlyScoped name → c.hasEnum name) ↔
      ∀ d ∈ i.classes, ∀ type ∈ d.mentions, ¬ Builtin.isBuiltin type → i.OnlyScoped type → c.hasEnum type) := by
  refine ⟨fun role => initializer_infix_render file? declared, fun role name => registerLine_mem_roleBody_iff, ?_⟩
  constructor
  · intro inScope d among type mentioned custom isScoped
    exact inScope .source type (registerLine_mem_roleBody_iff.mpr (.inr ⟨d, among, mentioned, custom⟩)) isScoped
  · intro declares role name registered isScoped
    rcases registerLine_mem_roleBody_iff.mp registered with isRecord | ⟨d, among, mentioned, custom⟩
    · exact absurd isRecord isScoped.2.1
    · exact declares d among name mentioned custom isScoped

def lighting : Interface where
  classes := [
    { name := "Lamp", properties := [{ type := "Mode", name := "mode" }],
      enums := [{ name := "Mode", enumerators := [⟨"on", .number 1⟩] }] },
    { name := "Switch" }]

theorem registered_in_scope_iff_lighting :
    (Draft.ofInterface lighting).check = .ok () ∧ lighting.OnlyScoped "Mode" ∧
      ∃ c ∈ lighting.classes, ¬ c.hasEnum "Mode" ∧ registerLine "Mode" ∈ roleBody lighting c .replica ∧
        Text.written (initializer lighting c .replica) <:+: render lighting .merged none := by
  have switch : { name := "Switch" } ∈ lighting.classes := by decide
  have mentioned : lighting.NeedsRegistration "Mode" := by
    refine .inr ⟨_, List.mem_cons_self, ?_⟩
    decide
  obtain ⟨stands, registers, -⟩ := registered_in_scope_iff lighting .merged none switch
  have isScoped : lighting.OnlyScoped "Mode" := ⟨⟨_, List.mem_cons_self, by decide⟩, by decide, by decide, by decide⟩
  exact ⟨rfl, isScoped, _, switch, by decide, (registers .replica _).mpr mentioned, stands .replica rfl⟩

end QtHeader

end Counterpart
