import Counterpart.Proofs.Refusal
import Counterpart.Proofs.Widths
import Mathlib.Data.List.Find

/-!
A number becomes an enumerator in two ways: the plan of an enum names the first enumerator that is declared with it, and
the class of the enum has one enumerator for each number, whatever names it goes by. Main statement: both select the
same enumerator for every integer, and any bytes that are enough are read as the one selected for the integer that they
hold, with a warning where no enumerator has it.
-/
namespace Counterpart

/-! ## The two ways -/

namespace EnumDecl

variable {e : EnumDecl}

/-- Where all enumerators are numbers, the plan looks for the first that is declared with an integer. -/
theorem find?_plan (numbers : ∀ x ∈ e.enumerators, x.value ≠ .absent) (raw : Int) :
    e.plan.values.find? (fun x => x.value.toInt? = some raw) = e.first? raw := by
  refine List.find?_congr fun x declared => decide_eq_decide.mpr ?_
  cases given : x.value with
  | absent => exact absurd given (numbers x declared)
  | number i => simp [Whole.toInt?, Whole.toInt]
  | truth b => simp [Whole.toInt?, Whole.toInt]

theorem convertValue_plan (numbers : ∀ x ∈ e.enumerators, x.value ≠ .absent) (populated : e.enumerators ≠ [])
    (distinct : (e.enumerators.map (·.name.unreserved)).Nodup) (cls : Text) (raw : Int) :
    ∃ v, e.plan.named? cls (e.plan.convert raw).1.unreserved = some v ∧
      e.plan.convertValue cls (.integer raw) = .ok (v, (e.plan.convert raw).2) := by
  have matched := (Module.matching?_integer e.plan cls raw).trans (withNumber?_plan e cls raw)
  cases found : e.first? raw with
  | some x =>
    have isNumber : x.value.toInt = raw := by simpa using List.find?_some found
    have selected : e.plan.convert raw = (x.name, true) := by rw [EnumPlan.convert, find?_plan numbers, found]
    refine ⟨.enumerator cls x.name.unreserved raw, ?_, ?_⟩
    · rw [selected, named?_plan distinct (List.mem_of_find?_eq_some found), withNumber?_plan, isNumber, found,
        Option.map_some]
    · simp [EnumPlan.convertValue, Value.unhashable?, matched, found, selected]
  | none =>
    obtain ⟨x, rest, listed⟩ := List.exists_cons_of_ne_nil populated
    have selected : e.plan.convert raw = (x.name, false) := by
      rw [EnumPlan.convert, find?_plan numbers, found]
      simp [EnumPlan.fallback, plan, listed]
    -- The first enumerator goes by its own name, as no other with its number can come before it.
    have isFirst : e.first? x.value.toInt = some x := by simp [first?, listed]
    have fallback : e.plan.first? cls = some (.enumerator cls x.name.unreserved x.value.toInt) := by
      simp [EnumPlan.first?, EnumPlan.members, plan, listed]
    refine ⟨.enumerator cls x.name.unreserved x.value.toInt, ?_, ?_⟩
    · rw [selected, named?_plan distinct (by simp [listed]), withNumber?_plan, isFirst, Option.map_some]
    · simp [EnumPlan.convertValue, Value.unhashable?, matched, found, selected, fallback]

end EnumDecl

/-! ## Bytes -/

theorem WireType.read_format (w : WireType) (b : Bytes) : w.format.read b = .integer (w.format.readInteger b) := by
  obtain ⟨signed, width⟩ := w
  cases signed <;> cases width <;> rfl

namespace EnumPlan

variable {p : EnumPlan}

/-- Some enumerator has the integer. -/
def Has (p : EnumPlan) (raw : Int) : Prop := ∃ x ∈ p.values, x.value.toInt? = some raw

instance (p : EnumPlan) (raw : Int) : Decidable (p.Has raw) := inferInstanceAs (Decidable (∃ x ∈ p.values, _))

theorem convert_snd (p : EnumPlan) (raw : Int) : (p.convert raw).2 = decide (p.Has raw) := by
  rw [convert]
  split
  next x found =>
    have has : p.Has raw := ⟨x, List.mem_of_find?_eq_some found, by simpa using List.find?_some found⟩
    simp [has]
  next absent =>
    have lacks : ¬ p.Has raw := by
      rintro ⟨x, declared, same⟩
      exact List.find?_eq_none.mp absent x declared (by simpa using same)
    simp [lacks]

def rawAt (p : EnumPlan) (data : Bytes) (offset : Nat) : Int :=
  p.wire.format.readInteger ((data.drop offset).take p.wire.size)

/-- Bytes that are enough are read, and it is told if their integer is strange. -/
theorem unpack_of_convertValue {cls : Text} {data : Bytes} {offset : Nat} {v : Value} {known : Bool}
    (short : data.length < 2 ^ 63) (inside : offset + p.wire.size ≤ data.length)
    (converted : p.convertValue cls (.integer (p.rawAt data offset)) = .ok (v, known)) :
    p.unpack cls data offset =
      ⟨.ok (v, p.wire.size), if known then [] else [.strangeNumber cls (Value.integer (p.rawAt data offset)).shown]⟩ := by
  have window : data.window offset p.wire.size = .ok ((data.drop offset).take p.wire.size) :=
    (Bytes.window_ok_iff short).mpr ⟨inside, rfl⟩
  have number : unpackNumber p.wire.format data offset = .ok (.integer (p.rawAt data offset), p.wire.size) := by
    rw [unpackNumber, p.wire.size_format, window, ok_map, WireType.read_format]
    rfl
  have read : p.fromWire cls (.integer (p.rawAt data offset)) = ⟨.ok v,
      if known then [] else [.strangeNumber cls (Value.integer (p.rawAt data offset)).shown]⟩ := by
    rw [fromWire, converted]
    cases known <;> rfl
  rw [unpack, number]
  show (p.fromWire cls (.integer (p.rawAt data offset)) >>= fun v => pure (v, p.wire.size)) = _
  rw [read]
  cases known <;> rfl

end EnumPlan

/-! ## Main statement -/

namespace Module

/-- The class of an enum can be made: the enumerators are numbers under plain names of their own, and neither they nor
the classes of the unit take a name from what the class is made with. The rest of the unit is taken to load. -/
structure MakesEnum (m : Module) (p : EnumPlan) : Prop where
  numbers : ∀ x ∈ p.values, x.value ≠ .absent
  plain : ∀ x ∈ p.values, x.name.IsPlain ∧ ¬ ("_" : Text) <+: x.name
  distinct : (p.values.map (·.name.unreserved)).Nodup
  free : ∀ x ∈ p.values, x.name ∉ (["classmethod", "pack", "unpack", "convert", "from_wire", "mro"] : List Text)
  titles : m.Unhidden

/-- The class of an enum gives the enumerator that its plan names for an integer, be it given or read. -/
theorem decodes_as_planned (registry : Registry) {d : Draft} (accepted : d.check = .ok ()) {m : Module}
    (unit : m.interface = d.fill) {cls : Text} {p : EnumPlan} (defined : m.definition? cls = some (.enum p))
    (made : m.MakesEnum p) :
    (∀ raw : Int, ∃ v, p.named? cls (p.convert raw).1.unreserved = some v ∧
      p.convertValue cls (.integer raw) = .ok (v, (p.convert raw).2)) ∧
    ∀ (data : Bytes) (offset : Nat), data.length < 2 ^ 63 → offset + p.wire.size ≤ data.length →
      ∃ v, p.named? cls (p.convert (p.rawAt data offset)).1.unreserved = some v ∧
        m.unpackOwn registry (m.unpackDepth data) cls data offset = ⟨.ok (v, p.wire.size),
          if p.Has (p.rawAt data offset) then []
          else [.strangeNumber cls (Value.integer (p.rawAt data offset)).shown]⟩ := by
  obtain ⟨e, declared, rfl⟩ := exists_enum_of_definition? defined
  have populated : e.enumerators ≠ [] := Draft.enumerators_ne_nil_of_check accepted (unit ▸ declared)
  have selects := EnumDecl.convertValue_plan made.numbers populated made.distinct cls
  refine ⟨selects, fun data offset short inside => ?_⟩
  obtain ⟨v, named, converted⟩ := selects (e.plan.rawAt data offset)
  refine ⟨v, named, ?_⟩
  obtain ⟨depth, deep⟩ := Nat.exists_eq_succ_of_ne_zero (show m.unpackDepth data ≠ 0 by simp [unpackDepth])
  rw [deep, unpackOwn, defined]
  simp only [EnumPlan.unpack_of_convertValue short inside converted, EnumPlan.convert_snd, decide_eq_true_eq]

private theorem makesEnum_dial : (panel dial).MakesEnum dial.plan where
  numbers := by decide
  plain := by decide
  distinct := by decide +kernel
  free := by decide
  titles := by decide

theorem decodes_as_planned_dial : (Draft.ofInterface { enums := [dial] }).check = .ok () ∧
    (panel dial).MakesEnum dial.plan ∧
    dial.plan.convertValue "Dial" (.integer 127) = .ok (.enumerator "Dial" "mid" 127, true) ∧
    (panel dial).unpackOwn {} ((panel dial).unpackDepth [0, 0x12, 0x34]) "Dial" [0, 0x12, 0x34] 1 =
      ⟨.ok (.enumerator "Dial" "low" (-1), 2), [.strangeNumber "Dial" "4660"]⟩ := by
  have accepted : (Draft.ofInterface { enums := [dial] }).check = .ok () := rfl
  have defined : (panel dial).definition? "Dial" = some (.enum dial.plan) := by decide +kernel
  obtain ⟨converts, unpacks⟩ := decodes_as_planned {} accepted (m := panel dial) rfl defined makesEnum_dial
  obtain ⟨v, named, converted⟩ := converts 127
  obtain ⟨strange, isFirst, unpacked⟩ := unpacks [0, 0x12, 0x34] 1 (by decide) (by decide)
  cases named
  cases isFirst
  exact ⟨accepted, makesEnum_dial, converted, unpacked⟩

end Module
end Counterpart
