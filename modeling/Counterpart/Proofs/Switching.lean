import Counterpart.Proofs.IntegerLiterals
import Counterpart.Proofs.Scoping
import Counterpart.Proofs.Widths

/-!
Headers convert integers to enums by a switch with one label for each enumerator. Main statement: the switch is
well-formed exactly if the enumerators have different numbers that fit the type switched on, and then it does what the
plan of the enum says. A name may be declared once only, but a number may be declared again, which a switch does not
allow.
-/
namespace Counterpart

/-! ## Constants -/

def natural? (digits : Text) : Option Nat :=
  if digits.isEmpty || !digits.all (·.isAsciiDigit) then none else some (Numeral.spelled 10 digits)

/-- The integer that a label stands for: digits, with a sign in front or without one. -/
def constant? (label : Text) : Option Int :=
  match Text.after? "-" label with
  | some digits => (natural? digits).map fun n => -Int.ofNat n
  | none => (natural? label).map Int.ofNat

def Whole.number? : Whole → Option Int
  | .number i => some i
  | _ => none

theorem natural?_ofNat (n : Nat) : natural? (Text.ofNat n) = some n := by
  have nonempty : Text.ofNat n ≠ [] := by simp [Text.ofNat]
  have digits : (Text.ofNat n).all (·.isAsciiDigit) := List.all_eq_true.mpr (Numeral.isAsciiDigit_ofNat n)
  rw [natural?, if_neg (by simp [nonempty, digits]), Numeral.spelled_ofNat]

theorem constant?_ofInt (i : Int) : constant? (Text.ofInt i) = some i := by
  rw [Text.ofInt]
  split
  next negative =>
    have sign : Text.after? "-" ('-' :: Text.ofNat i.natAbs) = some (Text.ofNat i.natAbs) := rfl
    rw [constant?, sign]
    simp only [natural?_ofNat, Option.map_some, Option.some.injEq, Int.ofNat_eq_natCast]
    omega
  next notNegative =>
    have noSign : Text.after? "-" (Text.ofNat i.natAbs) = none := by
      have digits := Numeral.isAsciiDigit_ofNat i.natAbs
      cases written : Text.ofNat i.natAbs with
      | nil => rfl
      | cons first rest =>
        have isDigit := digits first (written ▸ List.mem_cons_self)
        refine if_neg fun same => ?_
        rw [← same] at isDigit
        exact absurd isDigit (by decide)
    rw [constant?, noSign]
    simp only [natural?_ofNat, Option.map_some, Option.some.injEq, Int.ofNat_eq_natCast]
    omega

theorem constant?_text (w : Whole) : constant? w.text = w.number? := by
  cases w with
  | number i => exact constant?_ofInt i
  | truth b => cases b <;> rfl
  | absent => rfl

theorem Whole.colon_notMem_text (w : Whole) : CodePoint.ofChar ':' ∉ w.text := by
  cases w with
  | number i =>
    have digits : CodePoint.ofChar ':' ∉ Text.ofNat i.natAbs := fun among =>
      absurd (Numeral.isAsciiDigit_ofNat i.natAbs _ among) (by decide)
    rw [text, Text.ofInt]
    split
    next => exact List.not_mem_cons_of_ne_of_not_mem (by decide) digits
    next => exact digits
  | truth b => cases b <;> decide
  | absent => decide

/-! ## Switches -/

namespace QtHeader

/-- A switch over an integer: what is returned at each label, and otherwise. -/
structure Switch where
  cases : List (Text × Text)
  otherwise : Text

def caseOf? (line : Text) : Option (Text × Text) :=
  (Text.after? "        case " line).bind fun rest =>
    (Text.after? ": return " (rest.dropWhile (· ≠ ':'))).map fun target =>
      (rest.takeWhile (· ≠ ':'), target.dropLast)

def defaultOf? (line : Text) : Option Text := (Text.after? "            return " line).map (·.dropLast)

/-- The switch in the lines of a function. -/
def Switch.read (lines : List Text) : Switch :=
  ⟨lines.filterMap caseOf?, (lines.findSome? defaultOf?).getD []⟩

/-- The switch sends the integer to a name, and tells whether a label has it. -/
inductive Switch.Sends (s : Switch) (raw : Int) : Text × Bool → Prop
  | labelled {label name : Text} : (label, name) ∈ s.cases → constant? label = some raw → Sends s raw (name, true)
  | unlabelled : (∀ c ∈ s.cases, constant? c.1 ≠ some raw) → Sends s raw (s.otherwise, false)

end QtHeader

/-- The type in which a value of the type is switched on: small types are widened with a sign. -/
def WireType.promoted (w : WireType) : WireType := if w = ⟨false, .bits32⟩ then w else ⟨true, .bits32⟩

namespace QtHeader

/-- Labels are constants that the type switched on can hold, each of them once. -/
structure Switch.WellFormed (s : Switch) (w : WireType) : Prop where
  constants : ∀ c ∈ s.cases, ∃ v, constant? c.1 = some v ∧ w.promoted.Holds v
  distinct : (s.cases.map fun c => constant? c.1).Nodup

theorem caseOf?_line {label : Text} (plain : CodePoint.ofChar ':' ∉ label) (name : Text) :
    caseOf? (Text.concat ["        case ", label, ": return ", name, ";"]) = some (label, name) := by
  let behind : Text := ": return " ++ (name ++ ";")
  have line : Text.concat ["        case ", label, ": return ", name, ";"] = "        case " ++ (label ++ behind) := by
    simp [Text.concat, behind]
  have start : Text.after? "        case " ("        case " ++ (label ++ behind)) = some (label ++ behind) := rfl
  have inside : ∀ c ∈ label, decide (c ≠ CodePoint.ofChar ':') = true := fun c among => by
    simpa using fun same : c = CodePoint.ofChar ':' => plain (same ▸ among)
  have label_eq : (label ++ behind).takeWhile (· ≠ CodePoint.ofChar ':') = label := by
    rw [List.takeWhile_append_of_pos inside]
    exact List.append_nil label
  have behind_eq : (label ++ behind).dropWhile (· ≠ CodePoint.ofChar ':') = behind := List.dropWhile_append_of_pos inside
  have target : Text.after? ": return " behind = some (name ++ ";") := rfl
  have last : (name ++ (";" : Text)).dropLast = name := List.dropLast_concat
  rw [caseOf?, line, start, Option.bind_some, label_eq, behind_eq, target, Option.map_some, last]

/-- The lines of a conversion before its cases, and those behind. -/
def conversionOpening (p : EnumPlan) : List Text :=
  [Text.concat ["    static inline ", p.name, " to", p.name, "(", p.wire.name, " i, bool *ok = 0)"],
    "    \x7b", "        if (ok)", "            *ok = true;", "        switch (i) \x7b"]

def conversionClosing (p : EnumPlan) : List Text :=
  ["        default:", "            if (ok)", "                *ok = false;",
    Text.concat ["            return ", p.fallback, ";"], "        \x7d", "    \x7d"]

def caseLine (e : Enumerator) : Text := Text.concat ["        case ", e.value.text, ": return ", e.name, ";"]

theorem enumConversions_singleton (p : EnumPlan) :
    enumConversions [p] = conversionOpening p ++ (p.values.map caseLine ++ conversionClosing p) := by
  rw [enumConversions, List.flatMap_singleton]
  rfl

theorem read_enumConversions (p : EnumPlan) : Switch.read (enumConversions [p]) =
    ⟨p.values.map fun e => (e.value.text, e.name), p.fallback⟩ := by
  have cases : (p.values.map caseLine).filterMap caseOf? = p.values.map fun e => (e.value.text, e.name) := by
    rw [List.filterMap_map, ← List.filterMap_eq_map]
    exact List.filterMap_congr fun e _ => caseOf?_line e.value.colon_notMem_text e.name
  have noDefault : (p.values.map caseLine).findSome? defaultOf? = none := by
    rw [List.findSome?_map]
    exact List.findSome?_eq_none_iff.mpr fun e _ => rfl
  have noCaseBefore : (conversionOpening p).filterMap caseOf? = [] := rfl
  have noCaseBehind : (conversionClosing p).filterMap caseOf? = [] := rfl
  have noDefaultBefore : (conversionOpening p).findSome? defaultOf? = none := rfl
  have default : (conversionClosing p).findSome? defaultOf? = some (p.fallback ++ (";" : Text)).dropLast := rfl
  have last : (p.fallback ++ (";" : Text)).dropLast = p.fallback := List.dropLast_concat
  rw [Switch.read, enumConversions_singleton]
  simp only [List.filterMap_append, List.findSome?_append, cases, noDefault, noCaseBefore, noCaseBehind, noDefaultBefore,
    default, last, List.nil_append, List.append_nil, Option.none_or, Option.getD_some]

/-- The switch is well-formed exactly if the enumerators have different numbers that can be switched on. -/
theorem wellFormed_read_iff (p : EnumPlan) : (Switch.read (enumConversions [p])).WellFormed p.wire ↔
    (∀ x ∈ p.values, ∃ v, x.value = .number v ∧ p.wire.promoted.Holds v) ∧ (p.values.map (·.value)).Nodup := by
  have constant_iff (w : Whole) (v : Int) : constant? w.text = some v ↔ w = .number v := by
    rw [constant?_text]
    cases w <;> simp [Whole.number?]
  rw [read_enumConversions]
  constructor
  · rintro ⟨constants, distinct⟩
    refine ⟨fun x among => ?_, .of_map (fun w => constant? w.text) (by simpa [Function.comp_def] using distinct)⟩
    obtain ⟨v, isConstant, fits⟩ := constants _ (List.mem_map_of_mem among)
    exact ⟨v, (constant_iff x.value v).mp isConstant, fits⟩
  · rintro ⟨numbers, distinct⟩
    refine ⟨fun c among => ?_, ?_⟩
    · obtain ⟨x, isValue, rfl⟩ := List.mem_map.mp among
      obtain ⟨v, isNumber, fits⟩ := numbers x isValue
      exact ⟨v, (constant_iff x.value v).mpr isNumber, fits⟩
    · have injective : ∀ w ∈ p.values.map (·.value), ∀ other ∈ p.values.map (·.value),
          constant? w.text = constant? other.text → w = other := by
        intro w among other amongToo same
        obtain ⟨x, isValue, rfl⟩ := List.mem_map.mp among
        obtain ⟨v, isNumber, -⟩ := numbers x isValue
        rw [(constant_iff x.value v).mpr isNumber] at same
        exact isNumber.trans ((constant_iff other v).mp same.symm).symm
      simpa [Function.comp_def] using distinct.map_on injective

/-- A well-formed switch sends every integer where the plan converts it to. -/
theorem sends_read_iff {p : EnumPlan} (wellFormed : (Switch.read (enumConversions [p])).WellFormed p.wire) (raw : Int)
    (result : Text × Bool) : (Switch.read (enumConversions [p])).Sends raw result ↔ result = p.convert raw := by
  obtain ⟨numbers, distinct⟩ := (wellFormed_read_iff p).mp wellFormed
  have labelled_iff {x : Enumerator} (among : x ∈ p.values) :
      constant? x.value.text = some raw ↔ x.value.toInt? = some raw := by
    obtain ⟨v, isNumber, -⟩ := numbers x among
    rw [constant?_text, isNumber]
    rfl
  have unique {x y : Enumerator} (among : x ∈ p.values) (amongToo : y ∈ p.values) (first : x.value.toInt? = some raw)
      (second : y.value.toInt? = some raw) : x = y := by
    obtain ⟨v, isNumber, -⟩ := numbers x among
    obtain ⟨w, isNumberToo, -⟩ := numbers y amongToo
    rw [isNumber] at first
    rw [isNumberToo] at second
    exact List.inj_on_of_nodup_map distinct among amongToo
      (isNumber.trans (isNumberToo.trans (congrArg _ (Option.some.inj (second.trans first.symm)))).symm)
  rw [read_enumConversions]
  cases found : p.values.find? (fun e => e.value.toInt? = some raw) with
  | some x =>
    have among := List.mem_of_find?_eq_some found
    have hasRaw : x.value.toInt? = some raw := by simpa using List.find?_some found
    have converted : p.convert raw = (x.name, true) := by rw [EnumPlan.convert, found]
    rw [converted]
    constructor
    · rintro (⟨isCase, isLabel⟩ | free)
      · obtain ⟨y, amongToo, same⟩ := List.mem_map.mp isCase
        cases same
        rw [unique amongToo among ((labelled_iff amongToo).mp isLabel) hasRaw]
      · exact absurd ((labelled_iff among).mpr hasRaw) (free _ (List.mem_map_of_mem among))
    · rintro rfl
      exact .labelled (List.mem_map_of_mem among) ((labelled_iff among).mpr hasRaw)
  | none =>
    have others : ∀ x ∈ p.values, x.value.toInt? ≠ some raw := by simpa using found
    have converted : p.convert raw = (p.fallback, false) := by rw [EnumPlan.convert, found]
    rw [converted]
    constructor
    · rintro (⟨isCase, isLabel⟩ | free)
      · obtain ⟨y, among, same⟩ := List.mem_map.mp isCase
        cases same
        exact absurd ((labelled_iff among).mp isLabel) (others y among)
      · rfl
    · rintro rfl
      refine .unlabelled fun c isCase isLabel => ?_
      obtain ⟨y, among, rfl⟩ := List.mem_map.mp isCase
      exact others y among ((labelled_iff among).mp isLabel)

/-! ## Headers -/

/-- The enums of a unit with the full names that their plans are kept under. -/
def keyedEnums (i : Interface) : List (Text × EnumDecl) :=
  i.enums.map (fun e => (e.name, e)) ++ i.classes.flatMap fun c => c.enums.map fun e => (fullName c e, e)

theorem planOf_of_nodup {i : Interface} (apart : ((keyedEnums i).map (·.1)).Nodup) {key : Text} {e : EnumDecl}
    (declared : (key, e) ∈ keyedEnums i) : planOf i key e = e.plan := by
  have listed : plans i = Keyed.ofList ((keyedEnums i).map fun entry => (entry.1, entry.2.plan)) := by
    simp [plans, keyedEnums, List.map_flatMap, Function.comp_def]
  have distinct : (Keyed.keys ((keyedEnums i).map fun entry => (entry.1, entry.2.plan))).Nodup := by
    simpa [Keyed.keys, Function.comp_def] using apart
  have kept : (key, e.plan) ∈ (keyedEnums i).map fun entry => (entry.1, entry.2.plan) :=
    List.mem_map.mpr ⟨_, declared, rfl⟩
  rw [planOf, listed, Keyed.ofList_of_nodup distinct, Keyed.get?_of_mem distinct kept, Option.getD_some]

/-- A part of a header declares an enum that has a full name: it is the class of a global enum, or plays a role. -/
inductive Declares (i : Interface) (mode : Mode) : List Text → Text → EnumDecl → Prop
  | ofUnit {e : EnumDecl} : e ∈ i.enums → Declares i mode (globalEnum (planOf i e.name e)) e.name e
  | ofClass {c : ClassDecl} {e : EnumDecl} {role : Role} : c ∈ i.classes → e ∈ c.enums → mode.writes role →
    Declares i mode (roleClass i c role) (fullName c e) e

namespace Declares

variable {i : Interface} {mode : Mode} {part : List Text} {key : Text} {e : EnumDecl}

theorem mem_keyedEnums (declares : Declares i mode part key e) : (key, e) ∈ keyedEnums i := by
  cases declares with
  | ofUnit declared => exact List.mem_append_left _ (List.mem_map.mpr ⟨e, declared, rfl⟩)
  | ofClass isClass declared _ =>
    exact List.mem_append_right _ (List.mem_flatMap.mpr ⟨_, isClass, List.mem_map.mpr ⟨e, declared, rfl⟩⟩)

theorem infix_render (declares : Declares i mode part key e) (file? : Option Text) :
    Text.written part <:+: render i mode file? := by
  cases declares with
  | ofUnit declared =>
    have inEnums : globalEnum (planOf i e.name e) <:+: i.enums.flatMap fun e => globalEnum (planOf i e.name e) :=
      List.infix_of_mem_flatten (List.mem_map_of_mem declared)
    have inShared : globalEnum (planOf i e.name e) <:+: shared i := inEnums.trans (List.infix_of_mem_flatten (by simp))
    exact Text.written_infix (inShared.trans (List.infix_of_mem_flatten (by simp)))
  | ofClass isClass _ written => exact roleClass_infix_render file? isClass written

theorem conversion_infix (declares : Declares i mode part key e) :
    Text.written (enumConversions [planOf i key e]) <:+: Text.written part := by
  cases declares with
  | ofUnit _ => exact Text.written_infix (List.infix_of_mem_flatten (by simp))
  | @ofClass c _ _ _ declared _ =>
    have inConversions : enumConversions [planOf i (fullName c e) e] <:+: enumConversions (classPlans i c) := by
      rw [enumConversions, List.flatMap_singleton]
      exact List.infix_of_mem_flatten (List.mem_map_of_mem (List.mem_map_of_mem declared))
    exact Text.written_infix (inConversions.trans (List.infix_of_mem_flatten (by simp)))

end Declares

/-- Wherever a header declares an enum, the function that converts integers to it stands there. Its switch is
well-formed exactly if the enumerators have different numbers that can be switched on, and then it sends every integer
where the plan converts it to. The plan is that of the enum if the full names of all enums differ. -/
theorem conversion_wellFormed_iff {i : Interface} {mode : Mode} {part : List Text} {key : Text} {e : EnumDecl}
    (declares : Declares i mode part key e) (file? : Option Text) {p : EnumPlan} (planned : planOf i key e = p) :
    (Text.written part <:+: render i mode file? ∧ Text.written (enumConversions [p]) <:+: Text.written part) ∧
    ((Switch.read (enumConversions [p])).WellFormed p.wire ↔
      (∀ x ∈ p.values, ∃ v, x.value = .number v ∧ p.wire.promoted.Holds v) ∧ (p.values.map (·.value)).Nodup) ∧
    ((Switch.read (enumConversions [p])).WellFormed p.wire → ∀ raw result,
      (Switch.read (enumConversions [p])).Sends raw result ↔ result = p.convert raw) ∧
    (((keyedEnums i).map (·.1)).Nodup → p = e.plan) := by
  subst planned
  exact ⟨⟨declares.infix_render file?, declares.conversion_infix⟩, wellFormed_read_iff _, sends_read_iff,
    fun apart => planOf_of_nodup apart declares.mem_keyedEnums⟩

def beacon : EnumDecl :=
  { name := "Beacon", enumerators := [⟨"dark", .number 0⟩, ⟨"lit", .number 200⟩, ⟨"bright", .number 255⟩] }

theorem conversion_wellFormed_iff_beacon : (Draft.ofInterface { enums := [beacon] }).check = .ok () ∧
    Text.written (enumConversions [beacon.plan]) <:+: render { enums := [beacon] } .merged none ∧
    ∀ raw result, (Switch.read (enumConversions [beacon.plan])).Sends raw result ↔ result = beacon.plan.convert raw := by
  have declares : Declares { enums := [beacon] } .merged _ beacon.name beacon := .ofUnit List.mem_cons_self
  obtain ⟨⟨stands, inside⟩, wellFormed_iff, sends_iff, -⟩ := conversion_wellFormed_iff declares none (p := beacon.plan) rfl
  have wide : beacon.plan.wire.promoted = ⟨true, .bits32⟩ := rfl
  refine ⟨rfl, inside.trans stands, sends_iff (wellFormed_iff.mpr ⟨?_, by decide⟩)⟩
  rw [wide]
  intro x among
  simp only [beacon, EnumDecl.plan, List.mem_cons, List.not_mem_nil, or_false] at among
  rcases among with rfl | rfl | rfl <;> exact ⟨_, rfl, by simp [WireType.Holds, WireType.bits]⟩

end QtHeader
end Counterpart
