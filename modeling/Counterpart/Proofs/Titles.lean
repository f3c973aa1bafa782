import Counterpart.Proofs.Records
import Counterpart.Proofs.TypeIds

/-!
The names of the classes of a compiled unit. Enums of classes are named after two declarations and sides after one, so that
they can meet other names though all declarations differ. Main statement: the declared names from which such meetings arise.
-/
namespace Counterpart

variable {c : ClassDecl} {i : Interface} {name a b cls ending x : Text}

/-! ## Origins of names -/

/-- What a name is made of. -/
inductive Origin where
  /-- The name of a record or of an enum outside the classes. -/
  | declared (name : Text)
  | enum (cls name : Text)
  /-- A side of a class. -/
  | side (cls ending : Text)
  deriving DecidableEq

def sideEndings : List Text := ["Replica", "Source", "SimpleSource", "SourceAPI"]

namespace Interface

/-- The class and the enum by which an enum of a class is named. -/
def home (i : Interface) (cls name : Text) : Text × Text :=
  if (i.classEnum? (splitScope name).1 (splitScope name).2).isSome then splitScope name else (cls, name)

def title (i : Interface) : Origin → Text
  | .declared name => name
  | .enum cls name => (i.home cls name).1 ++ "_" ++ (i.home cls name).2
  | .side cls ending => cls ++ ending

/-- The origins of all names in a unit, in the order of the definitions. -/
def origins (i : Interface) : List Origin :=
  (i.enums.map (·.name)).map .declared ++ i.classes.flatMap (fun c => c.enumNames.map (.enum c.name)) ++
    (i.records.map (·.name)).map .declared ++ i.classes.flatMap fun c => sideEndings.map (.side c.name)

/-- The names are as they were read: none was left out. -/
def Written (i : Interface) : Prop :=
  ∀ c ∈ i.classes, CodePoint.absent ∉ c.name ∧ ∀ e ∈ c.enums, CodePoint.absent ∉ e.name

/-- No enum of a class is named like an enum of another class with its scope. -/
def OwnHomes (i : Interface) : Prop :=
  ∀ c ∈ i.classes, ∀ name, c.hasEnum name →
    (i.classEnum? (splitScope name).1 (splitScope name).2).isSome → splitScope name = (c.name, name)

/-- No two names are made alike, in terms of what is declared. -/
structure TitlesApart (i : Interface) : Prop where
  /-- Enums of classes are named after their own class. -/
  homes : i.OwnHomes
  parts : ∀ c ∈ i.classes, ∀ d ∈ i.classes, ∀ part name, d.name = c.name ++ "_" ++ part → d.hasEnum name →
    ¬ c.hasEnum (part ++ "_" ++ name)
  enums : ∀ c ∈ i.classes, ∀ name, c.hasEnum name →
    c.name ++ "_" ++ name ∉ i.enums.map (·.name) ++ i.records.map (·.name)
  sides : ∀ c ∈ i.classes, ∀ ending ∈ sideEndings, c.name ++ ending ∉ i.enums.map (·.name) ++ i.records.map (·.name)
  /-- No enum of a class ends like a side of another. -/
  endings : ∀ c ∈ i.classes, ∀ d ∈ i.classes, ∀ part, d.name = c.name ++ "_" ++ part → ∀ ending ∈ sideEndings,
    ¬ c.hasEnum (part ++ ending)
  simple : ∀ c ∈ i.classes, ∀ d ∈ i.classes, d.name ≠ c.name ++ "Simple"

theorem declared_mem_origins :
    .declared name ∈ i.origins ↔ name ∈ i.enums.map (·.name) ++ i.records.map (·.name) := by
  simp [origins]

theorem enum_mem_origins : .enum cls name ∈ i.origins ↔ ∃ c ∈ i.classes, c.name = cls ∧ c.hasEnum name := by
  simp [origins, ClassDecl.hasEnum, ClassDecl.enumNames, ← exists_and_left, and_left_comm]

theorem side_mem_origins : .side cls ending ∈ i.origins ↔ cls ∈ i.classes.map (·.name) ∧ ending ∈ sideEndings := by
  simp [origins, and_comm, ← and_assoc]

private theorem nodup_flatMap_classes {make : Text → Text → Origin}
    (injective : ∀ a b x y, make a x = make b y → a = b ∧ x = y) {names : ClassDecl → List Text}
    (distinct : (i.classes.map (·.name)).Nodup) (each : ∀ c ∈ i.classes, (names c).Nodup) :
    (i.classes.flatMap fun c => (names c).map (make c.name)).Nodup := by
  refine List.nodup_flatMap.mpr ⟨fun c among => (each c among).map ?_, (List.pairwise_map.mp distinct).imp ?_⟩
  · exact fun x y same => (injective _ _ x y same).2
  · intro c d differ o inFirst inLater
    obtain ⟨x, -, rfl⟩ := List.mem_map.mp inFirst
    obtain ⟨y, -, same⟩ := List.mem_map.mp inLater
    exact differ (injective _ _ y x same).1.symm

theorem nodup_origins (formed : i.WellFormed) : i.origins.Nodup := by
  obtain ⟨others, enums, apart⟩ := List.nodup_append.mp formed.names
  obtain ⟨classes, records, -⟩ := List.nodup_append.mp others
  have ofEnums := nodup_flatMap_classes (fun _ _ _ _ => Origin.enum.inj) classes fun c among =>
    (formed.classes c among).enums
  have ofSides := nodup_flatMap_classes (fun _ _ _ _ => Origin.side.inj) classes fun _ _ =>
    (by decide : sideEndings.Nodup)
  have global : ((i.enums.map (·.name) ++ i.records.map (·.name)).map Origin.declared).Nodup := by
    refine List.Nodup.map (fun _ _ => Origin.declared.inj) (List.nodup_append.mpr ⟨enums, records, ?_⟩)
    exact fun e isEnum r isRecord same => apart r (List.mem_append_right _ isRecord) e isEnum same.symm
  have kinds : i.origins.Perm ((i.enums.map (·.name) ++ i.records.map (·.name)).map Origin.declared ++
      (i.classes.flatMap (fun c => c.enumNames.map (.enum c.name)) ++
        i.classes.flatMap fun c => sideEndings.map (.side c.name))) := by
    rw [origins, List.map_append]
    grind
  refine kinds.nodup_iff.mpr (List.nodup_append.mpr ⟨global, List.nodup_append.mpr ⟨ofEnums, ofSides, ?_⟩, ?_⟩)
  · simp only [List.mem_flatMap, List.mem_map]
    rintro _ ⟨_, -, _, -, rfl⟩ _ ⟨_, -, _, -, rfl⟩
    nofun
  · simp only [List.mem_append, List.mem_flatMap, List.mem_map]
    rintro _ ⟨_, -, rfl⟩ _ (⟨_, -, _, -, rfl⟩ | ⟨_, -, _, -, rfl⟩) <;> nofun

end Interface

namespace Text

/-- Two pairs of parts make one name if they are the same, or one first part goes on where the other ends. -/
theorem joined_cases {y : Text} (same : a ++ "_" ++ x = b ++ "_" ++ y) :
    (a = b ∧ x = y) ∨ (∃ part, b = a ++ "_" ++ part ∧ x = part ++ "_" ++ y) ∨
      ∃ part, a = b ++ "_" ++ part ∧ y = part ++ "_" ++ x := by
  have underscore : ("_" : Text) = [CodePoint.ofChar '_'] := rfl
  simp only [underscore, List.append_assoc, List.singleton_append] at same ⊢
  rcases List.append_eq_append_iff.mp same with ⟨more, rfl, rest⟩ | ⟨more, rfl, rest⟩
  · rcases List.cons_eq_append_iff.mp rest with ⟨rfl, rest⟩ | ⟨part, rfl, rfl⟩
    · exact .inl ⟨by simp, List.cons.inj rest |>.2⟩
    · exact .inr (.inl ⟨part, rfl, rfl⟩)
  · rcases List.cons_eq_append_iff.mp rest with ⟨rfl, rest⟩ | ⟨part, rfl, rfl⟩
    · exact .inl ⟨by simp, (List.cons.inj rest).2.symm⟩
    · exact .inr (.inr ⟨part, rfl, rfl⟩)

theorem joined_side_cases (free : CodePoint.ofChar '_' ∉ ending) (same : a ++ "_" ++ x = b ++ ending) :
    ∃ part, b = a ++ "_" ++ part ∧ x = part ++ ending := by
  rcases List.append_eq_append_iff.mp same with ⟨part, more, rest⟩ | ⟨beyond, more, rest⟩
  · exact ⟨part, more, rest⟩
  · rcases List.eq_nil_or_concat beyond with rfl | ⟨front, last, rfl⟩
    · exact ⟨[], by simpa using more.symm, by simpa using rest.symm⟩
    · have isLast : last = CodePoint.ofChar '_' := by
        rw [List.concat_eq_append, ← List.append_assoc] at more
        exact (List.append_inj_right' more rfl |> List.singleton_inj.mp).symm
      exact absurd (by simp [rest, isLast]) free

end Text

theorem side_cases {s t : Text} (first : s ∈ sideEndings) (other : t ∈ sideEndings) (same : a ++ s = b ++ t) :
    (a = b ∧ s = t) ∨ b = a ++ "Simple" ∨ a = b ++ "Simple" := by
  have sorts : ∀ s ∈ sideEndings, ∀ t ∈ sideEndings, s.getLast? = t.getLast? →
      s = t ∨ s = "Simple" ++ t ∨ t = "Simple" ++ s := by decide
  have nonempty : ∀ s ∈ sideEndings, s ≠ [] := by decide
  have last : s.getLast? = t.getLast? := by
    have lasts := congrArg List.getLast? same
    rwa [List.getLast?_append_of_ne_nil _ (nonempty s first), List.getLast?_append_of_ne_nil _ (nonempty t other)] at lasts
  rcases sorts s first t other last with rfl | rfl | rfl
  · exact .inl ⟨List.append_cancel_right same, rfl⟩
  · rw [← List.append_assoc] at same
    exact .inr (.inl (List.append_cancel_right same).symm)
  · rw [← List.append_assoc] at same
    exact .inr (.inr (List.append_cancel_right same))

namespace Interface

/-! ## Homes -/

theorem OwnHomes.home_eq (own : i.OwnHomes) (declared : c ∈ i.classes)
    (isEnum : c.hasEnum name) : i.home c.name name = (c.name, name) := by
  unfold home
  split
  next found => exact own c declared name isEnum found
  next => rfl

theorem splitScope_splitScope (type : Text) : splitScope (splitScope type).2 = ([], (splitScope type).2) := by
  unfold splitScope
  cases cut : Text.cutLast? "::" type with
  | none => simp [cut]
  | some parts =>
    have uncut := Text.cutLast?_of_cutLast? (by decide) (show Text.cutLast? "::" type = some (parts.1, parts.2) from cut)
    simp [uncut]

/-- If an enum was named after another class, that class would have an enum of the same name. -/
theorem ownHomes_of_injective (injective : ∀ x ∈ i.origins, ∀ y ∈ i.origins, i.title x = i.title y → x = y) :
    i.OwnHomes := by
  intro c declared name isEnum found
  have same {cls cls' n n' : Text} (one : ∃ c ∈ i.classes, c.name = cls ∧ c.hasEnum n)
      (other : ∃ c ∈ i.classes, c.name = cls' ∧ c.hasEnum n') (home : i.home cls n = i.home cls' n') :
      cls = cls' ∧ n = n' :=
    Origin.enum.inj (injective _ (enum_mem_origins.mpr one) _ (enum_mem_origins.mpr other) (by simp [title, home]))
  have isHome : i.home c.name name = splitScope name := if_pos found
  have mine : ∃ d ∈ i.classes, d.name = c.name ∧ d.hasEnum name := ⟨c, declared, rfl, isEnum⟩
  have meant := isSome_classEnum?_iff.mp found
  have inner := splitScope_splitScope name
  generalize splitScope name = parts at *
  obtain ⟨scope, last⟩ := parts
  by_cases nameless : (i.classEnum? [] last).isSome
  · -- The class without a name has that enum too, and both go by its name.
    have homes (cls : Text) : i.home cls last = ([], last) := by simp [home, inner, nameless]
    obtain ⟨rfl, -⟩ := same meant (isSome_classEnum?_iff.mp nameless) (by rw [homes, homes])
    obtain ⟨isNameless, rfl⟩ := same mine meant (isHome.trans (homes []).symm)
    rw [isNameless]
  · have isOwn : i.home scope last = (scope, last) := by simp [home, inner, nameless]
    obtain ⟨rfl, rfl⟩ := same mine meant (isHome.trans isOwn.symm)
    rfl

/-! ## Meetings of names -/

theorem OwnHomes.title_enum (own : i.OwnHomes) (declared : c ∈ i.classes)
    (isEnum : c.hasEnum name) : i.title (.enum c.name name) = c.name ++ "_" ++ name := by
  rw [title, own.home_eq declared isEnum]

theorem titlesApart_of_injective (injective : ∀ x ∈ i.origins, ∀ y ∈ i.origins, i.title x = i.title y → x = y) :
    i.TitlesApart := by
  have homes := ownHomes_of_injective injective
  have isEnum {c : ClassDecl} (declared : c ∈ i.classes) {name : Text} (isEnum : c.hasEnum name) :
      .enum c.name name ∈ i.origins := enum_mem_origins.mpr ⟨c, declared, rfl, isEnum⟩
  have isSide {c : ClassDecl} (declared : c ∈ i.classes) {ending : Text} (among : ending ∈ sideEndings) :
      .side c.name ending ∈ i.origins := side_mem_origins.mpr ⟨List.mem_map_of_mem declared, among⟩
  constructor
  case homes => exact homes
  case parts =>
    intro c first d later part name longer ofLater ofFirst
    have same := injective _ (isEnum first ofFirst) _ (isEnum later ofLater) (by
      rw [homes.title_enum first ofFirst, homes.title_enum later ofLater, longer]
      simp)
    obtain ⟨empty, -⟩ : ("_" : Text) = [] ∧ part = [] := by simpa [longer] using (Origin.enum.inj same).1
    exact absurd empty (by decide)
  case enums =>
    intro c declared name ofClass isGlobal
    exact Origin.noConfusion (injective _ (isEnum declared ofClass) _ (declared_mem_origins.mpr isGlobal)
      (homes.title_enum declared ofClass))
  case sides =>
    intro c declared ending among isGlobal
    exact Origin.noConfusion (injective _ (isSide declared among) _ (declared_mem_origins.mpr isGlobal) rfl)
  case endings =>
    intro c first d later part longer ending among ofFirst
    refine Origin.noConfusion (injective _ (isEnum first ofFirst) _ (isSide later among) ?_)
    rw [homes.title_enum first ofFirst, title, longer]
    simp
  case simple =>
    intro c first d later longer
    have isSimple := isSide first (show ("SimpleSource" : Text) ∈ sideEndings by decide)
    have isSource := isSide later (show ("Source" : Text) ∈ sideEndings by decide)
    have same := injective _ isSimple _ isSource (by
      rw [title, title, longer, List.append_assoc]
      rfl)
    exact absurd (Origin.side.inj same).2 (by decide)

namespace TitlesApart

variable {cls' name' ending' : Text}

theorem enum_ne_declared (apart : i.TitlesApart) (one : .enum cls name ∈ i.origins)
    (isGlobal : .declared name' ∈ i.origins) : i.title (.enum cls name) ≠ i.title (.declared name') := by
  obtain ⟨c, declared, rfl, isEnum⟩ := enum_mem_origins.mp one
  rw [apart.homes.title_enum declared isEnum]
  rintro rfl
  exact apart.enums c declared name isEnum (declared_mem_origins.mp isGlobal)

theorem side_ne_declared (apart : i.TitlesApart) (isSide : .side cls ending ∈ i.origins)
    (isGlobal : .declared name ∈ i.origins) : i.title (.side cls ending) ≠ i.title (.declared name) := by
  obtain ⟨isClass, among⟩ := side_mem_origins.mp isSide
  obtain ⟨c, declared, rfl⟩ := List.mem_map.mp isClass
  rintro rfl
  exact apart.sides c declared ending among (declared_mem_origins.mp isGlobal)

theorem enum_ne_side (apart : i.TitlesApart) (one : .enum cls name ∈ i.origins)
    (isSide : .side cls' ending ∈ i.origins) : i.title (.enum cls name) ≠ i.title (.side cls' ending) := by
  obtain ⟨c, first, rfl, isEnum⟩ := enum_mem_origins.mp one
  obtain ⟨isClass, among⟩ := side_mem_origins.mp isSide
  obtain ⟨d, later, rfl⟩ := List.mem_map.mp isClass
  intro same
  rw [apart.homes.title_enum first isEnum] at same
  have free : ∀ ending ∈ sideEndings, CodePoint.ofChar '_' ∉ ending := by decide
  obtain ⟨part, longer, rfl⟩ := Text.joined_side_cases (free ending among) same
  exact apart.endings c first d later part longer ending among isEnum

theorem eq_of_enum (apart : i.TitlesApart) (one : .enum cls name ∈ i.origins) (other : .enum cls' name' ∈ i.origins)
    (same : i.title (.enum cls name) = i.title (.enum cls' name')) : cls = cls' ∧ name = name' := by
  obtain ⟨c, first, rfl, isEnum⟩ := enum_mem_origins.mp one
  obtain ⟨d, later, rfl, isOther⟩ := enum_mem_origins.mp other
  rw [apart.homes.title_enum first isEnum, apart.homes.title_enum later isOther] at same
  rcases Text.joined_cases same with same | ⟨part, longer, rfl⟩ | ⟨part, longer, rfl⟩
  · exact same
  · exact absurd isEnum (apart.parts c first d later part name' longer isOther)
  · exact absurd isOther (apart.parts d later c first part name longer isEnum)

theorem eq_of_side (apart : i.TitlesApart) (one : .side cls ending ∈ i.origins) (other : .side cls' ending' ∈ i.origins)
    (same : i.title (.side cls ending) = i.title (.side cls' ending')) : cls = cls' ∧ ending = ending' := by
  obtain ⟨isClass, among⟩ := side_mem_origins.mp one
  obtain ⟨c, first, rfl⟩ := List.mem_map.mp isClass
  obtain ⟨isClass, among'⟩ := side_mem_origins.mp other
  obtain ⟨d, later, rfl⟩ := List.mem_map.mp isClass
  rcases side_cases among among' same with same | longer | longer
  · exact same
  · exact absurd longer (apart.simple c first d later)
  · exact absurd longer (apart.simple d later c first)

theorem injective (apart : i.TitlesApart) : ∀ x ∈ i.origins, ∀ y ∈ i.origins, i.title x = i.title y → x = y := by
  intro x one y other same
  cases x with
  | declared name =>
    cases y with
    | declared name' => exact congrArg Origin.declared same
    | enum => exact absurd same.symm (apart.enum_ne_declared other one)
    | side => exact absurd same.symm (apart.side_ne_declared other one)
  | enum cls name =>
    cases y with
    | declared => exact absurd same (apart.enum_ne_declared one other)
    | enum =>
      obtain ⟨rfl, rfl⟩ := apart.eq_of_enum one other same
      rfl
    | side => exact absurd same (apart.enum_ne_side one other)
  | side cls ending =>
    cases y with
    | declared => exact absurd same (apart.side_ne_declared one other)
    | enum => exact absurd same.symm (apart.enum_ne_side other one)
    | side =>
      obtain ⟨rfl, rfl⟩ := apart.eq_of_side one other same
      rfl

end TitlesApart

end Interface

/-! ## Definitions -/

theorem Interface.qualify_eq_title (written : i.Written) (declared : c ∈ i.classes)
    {e : EnumDecl} (isEnum : e ∈ c.enums) : i.qualify (some c) e.name = i.title (.enum c.name e.name) := by
  obtain ⟨named, names⟩ := written c declared
  have has : c.hasEnum e.name := List.any_eq_true.mpr ⟨e, isEnum, by simp⟩
  simp only [qualify, title, home, has, Text.shown_of_notMem named, Text.shown_of_notMem (names e isEnum)]
  split <;> simp [Text.concat]

theorem Module.names_definitions (written : i.Written) :
    (⟨i, .merged⟩ : Module).definitions.map (·.1) = i.origins.map i.title := by
  have enums : i.classes.flatMap (fun c => c.enums.map fun e => i.qualify (some c) e.name) =
      i.classes.flatMap fun c => (c.enumNames.map (.enum c.name)).map i.title := by
    refine List.flatMap_congr fun c declared => ?_
    rw [ClassDecl.enumNames, List.map_map, List.map_map]
    exact List.map_congr_left fun e isEnum => Interface.qualify_eq_title written declared isEnum
  have sides (c : ClassDecl) : (Mode.definitions .merged c).map (·.1) = (sideEndings.map (.side c.name)).map i.title := rfl
  simp only [definitions, Interface.emittedEnums, Interface.origins, List.map_append, List.map_map, List.map_flatMap,
    Function.comp_def, sides]
  simp only [List.map_map, Function.comp_def] at enums
  rw [enums]
  rfl

namespace Module

/-- The names of the definitions differ just if no two are made alike, and then each stands for its own definition. -/
theorem titles_nodup_iff {i : Interface} (accepted : (Draft.ofInterface i).check = .ok ()) (written : i.Written) :
    (((⟨i, .merged⟩ : Module).definitions.map (·.1)).Nodup ↔ i.TitlesApart) ∧
      (i.TitlesApart → ∀ entry ∈ (⟨i, .merged⟩ : Module).definitions,
        (⟨i, .merged⟩ : Module).definition? entry.1 = some entry.2) := by
  have nodup_iff : ((⟨i, .merged⟩ : Module).definitions.map (·.1)).Nodup ↔ i.TitlesApart := by
    rw [names_definitions written, List.nodup_map_iff_inj_on (Interface.nodup_origins (Draft.wellFormed_of_check accepted))]
    exact ⟨Interface.titlesApart_of_injective, Interface.TitlesApart.injective⟩
  exact ⟨nodup_iff, fun apart entry among => Scope.find?_of_mem (nodup_iff.mpr apart) among⟩

def porch (outer : Text) : Interface where
  classes := [{ name := "Lamp", enums := [{ name := "Mode", enumerators := [⟨"on", .number 1⟩] }] }]
  enums := [{ name := outer, enumerators := [⟨"off", .number 0⟩] }]

private theorem porch_written (outer : Text) : (porch outer).Written := by
  intro c declared
  cases List.mem_singleton.mp declared
  decide

theorem titles_nodup_iff_porch :
    (porch "Mode").TitlesApart ∧ (Draft.ofInterface (porch "Lamp_Mode")).check = .ok () ∧
      ¬ ((⟨porch "Lamp_Mode", .merged⟩ : Module).definitions.map (·.1)).Nodup := by
  obtain ⟨clear, -⟩ := titles_nodup_iff (i := porch "Mode") rfl (porch_written _)
  obtain ⟨clash, -⟩ := titles_nodup_iff (i := porch "Lamp_Mode") rfl (porch_written _)
  refine ⟨clear.mp (by decide +kernel), rfl, fun distinct => ?_⟩
  exact (clash.mp distinct).enums _ List.mem_cons_self "Mode" (by decide) (by decide)

end Module

end Counterpart
