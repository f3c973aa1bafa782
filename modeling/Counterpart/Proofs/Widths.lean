import Counterpart.Proofs.Records

/-!
An enum travels in the narrowest type for its largest magnitude. Main statement: that type holds all values
of the enum exactly if 32 bits hold them, and then every enumerator is read back from its bytes, whatever
stands before and after them. Of several enumerators with one value, the first declared is read.
-/
namespace Counterpart

/-! ## Types -/

namespace WireType

/-- The integer is one that the bits of the type can hold. -/
def Holds (w : WireType) (v : Int) : Prop :=
  if w.signed then -(2 ^ (w.bits - 1) : Nat) ≤ v ∧ v < (2 ^ (w.bits - 1) : Nat) else 0 ≤ v ∧ v < (2 ^ w.bits : Nat)

theorem size_format (w : WireType) : w.format.size = w.size := by
  obtain ⟨signed, width⟩ := w
  cases signed <;> cases width <;> rfl

theorem bounds_format (w : WireType) :
    ∃ least greatest, w.format.bounds? = some (least, greatest) ∧ ∀ v, w.Holds v ↔ least ≤ v ∧ v ≤ greatest := by
  obtain ⟨signed, width⟩ := w
  cases signed <;> cases width <;> exact ⟨_, _, rfl, fun v => by simp [Holds, bits]; omega⟩

theorem fits_of_holds {w : WireType} {v : Int} (holds : w.Holds v) :
    Encoding.Fits (.number w.format) (.integer v) := by
  obtain ⟨least, greatest, bounds, range⟩ := w.bounds_format
  obtain ⟨lower, upper⟩ := (range v).mp holds
  exact .integer bounds lower upper

/-- The narrowest type for a magnitude holds whatever 32 bits hold and the magnitude allows. -/
theorem holds_narrowest_iff {signed : Bool} {max v : Int} (small : v.natAbs ≤ max) (negative : v < 0 → signed = true) :
    (narrowest signed max).Holds v ↔ Holds ⟨signed, .bits32⟩ v := by
  cases signed with
  | true =>
    -- The thresholds are below the greatest values of the types, so also the least values are not reached.
    rw [narrowest, if_pos rfl]
    split
    next => simp [Holds, bits]; omega
    next =>
      split
      next => simp [Holds, bits]; omega
      next => rfl
  | false =>
    have notNegative : 0 ≤ v := by simpa using negative
    rw [narrowest, if_neg (by decide)]
    split
    next => simp [Holds, bits]; omega
    next =>
      split
      next => simp [Holds, bits]; omega
      next => rfl

end WireType

/-! ## Values -/

namespace EnumDecl

/-- Where a signedness or a largest magnitude is declared, the values comply with it. -/
structure Consistent (e : EnumDecl) : Prop where
  signed : ∀ signed, e.signed? = some signed → (∃ x ∈ e.enumerators, x.value.toInt < 0) → signed = true
  max : ∀ max, e.max? = some max → ∀ x ∈ e.enumerators, x.value.toInt.natAbs ≤ max.toInt

variable {e : EnumDecl} {x : Enumerator}

private theorem le_foldl_max {xs : List Enumerator} {start v : Int}
    (reached : v ≤ start ∨ ∃ x ∈ xs, v = x.value.toInt.natAbs) :
    v ≤ xs.foldl (fun m x => max m (x.value.toInt.natAbs : Int)) start := by
  induction xs generalizing start with
  | nil => simpa using reached
  | cons first rest ih =>
    apply ih
    rcases reached with below | ⟨x, among, rfl⟩
    · exact .inl (Int.le_trans below (Int.le_max_left _ _))
    · rcases List.mem_cons.mp among with rfl | later
      · exact .inl (Int.le_max_right _ _)
      · exact .inr ⟨x, later, rfl⟩

theorem Consistent.natAbs_le_largest (consistent : e.Consistent) (declared : x ∈ e.enumerators) :
    x.value.toInt.natAbs ≤ e.largest.toInt := by
  unfold largest
  cases given : e.max? with
  | some max => exact consistent.max max given x declared
  | none => exact le_foldl_max (.inr ⟨x, declared, rfl⟩)

theorem Consistent.isSigned_of_negative (consistent : e.Consistent) (declared : x ∈ e.enumerators)
    (negative : x.value.toInt < 0) : e.isSigned = true := by
  unfold isSigned
  cases given : e.signed? with
  | some signed => exact consistent.signed signed given ⟨x, declared, negative⟩
  | none => exact List.any_eq_true.mpr ⟨x, declared, by simpa using negative⟩

/-- The planned type holds a value of the enum exactly if 32 bits hold it. -/
theorem Consistent.holds_wire_iff (consistent : e.Consistent) (declared : x ∈ e.enumerators) :
    e.plan.wire.Holds x.value.toInt ↔ WireType.Holds ⟨e.isSigned, .bits32⟩ x.value.toInt :=
  WireType.holds_narrowest_iff (consistent.natAbs_le_largest declared) (consistent.isSigned_of_negative declared)

def first? (e : EnumDecl) (number : Int) : Option Enumerator := e.enumerators.find? fun x => x.value.toInt = number

theorem withNumber?_plan (e : EnumDecl) (cls : Text) (number : Int) : e.plan.withNumber? cls number =
    (e.first? number).map fun x => .enumerator cls x.name.unreserved number := by
  have mapped : e.plan.members.find? (fun member => member.2 = number) =
      (e.first? number).map fun x => (x.name.unreserved, x.value.toInt) := List.find?_map
  rw [EnumPlan.withNumber?, mapped]
  cases found : e.first? number with
  | none => rfl
  | some x =>
    have same : x.value.toInt = number := by simpa using List.find?_some found
    simp [same]

theorem named?_plan (distinct : (e.enumerators.map (·.name.unreserved)).Nodup) (declared : x ∈ e.enumerators)
    (cls : Text) : e.plan.named? cls x.name.unreserved = e.plan.withNumber? cls x.value.toInt := by
  have listed : (x.name.unreserved, x.value.toInt) ∈ e.plan.members := List.mem_map.mpr ⟨x, declared, rfl⟩
  have apart : (e.plan.members.map (·.1)).Nodup := by simpa [EnumPlan.members, plan, Function.comp_def] using distinct
  have found : e.plan.members.find? (fun member => member.1 = x.name.unreserved) = some (x.name.unreserved, x.value.toInt) := by
    obtain ⟨member, found⟩ : ∃ member, e.plan.members.find? (fun member => member.1 = x.name.unreserved) = some member :=
      Option.isSome_iff_exists.mp (List.find?_isSome.mpr ⟨_, listed, by simp⟩)
    rw [found, List.inj_on_of_nodup_map apart (List.mem_of_find?_eq_some found) listed (by simpa using List.find?_some found)]
  exact congrArg (Option.bind · _) found

theorem first?_of_mem (declared : x ∈ e.enumerators) : ∃ first, e.first? x.value.toInt = some first :=
  Option.isSome_iff_exists.mp (List.find?_isSome.mpr ⟨x, declared, by simp⟩)

end EnumDecl

/-! ## Reading back -/

namespace Module

/-- The planned type of an enum of a sound module holds its values exactly if 32 bits do, and then its enumerators are
read back. -/
theorem unpack_pack_enumerators (registry : Registry) {m : Module} (sound : m.isSound) {cls : Text} {e : EnumDecl}
    (defined : m.definition? cls = some (.enum e.plan)) (consistent : e.Consistent) :
    ((∀ x ∈ e.enumerators, e.plan.wire.Holds x.value.toInt) ↔
      ∀ x ∈ e.enumerators, if e.isSigned then -(2 ^ 31 : Nat) ≤ x.value.toInt ∧ x.value.toInt < (2 ^ 31 : Nat)
        else 0 ≤ x.value.toInt ∧ x.value.toInt < (2 ^ 32 : Nat)) ∧
    ((∀ x ∈ e.enumerators, e.plan.wire.Holds x.value.toInt) →
      ∀ x ∈ e.enumerators, ∃ first v b, e.first? x.value.toInt = some first ∧
        v = .enumerator cls first.name.unreserved x.value.toInt ∧ e.plan.named? cls x.name.unreserved = some v ∧
        m.packOwn registry v = .ok b ∧
        ∀ before after data, data = before ++ b ++ after → data.length < 2 ^ 63 →
          (m.unpackOwn registry (m.unpackDepth data) cls data before.length).result = .ok (v, e.plan.wire.size)) := by
  refine ⟨forall₂_congr fun x declared => consistent.holds_wire_iff declared, fun holds x declared => ?_⟩
  have distinct : (e.enumerators.map (·.name.unreserved)).Nodup := by
    obtain ⟨other, isSound, same⟩ := isSound_of_definition? sound defined
    have listed : e.enumerators = other.enumerators := congrArg EnumPlan.values same
    simp only [EnumDecl.isSound, Bool.and_eq_true, decide_eq_true_eq] at isSound
    exact listed ▸ isSound.1.2
  obtain ⟨first, isFirst⟩ := EnumDecl.first?_of_mem declared
  have member : e.plan.withNumber? cls x.value.toInt = some (.enumerator cls first.name.unreserved x.value.toInt) := by
    rw [EnumDecl.withNumber?_plan, isFirst, Option.map_some]
  obtain ⟨b, packed, length, reads⟩ := reads_enumerator registry defined member
    (WireType.fits_of_holds (holds x declared))
  refine ⟨first, _, b, isFirst, rfl, (EnumDecl.named?_plan distinct declared cls).trans member, packed, ?_⟩
  rintro before after data rfl short
  obtain ⟨depth, deep⟩ := Nat.exists_eq_succ_of_ne_zero (show m.unpackDepth (before ++ b ++ after) ≠ 0 by simp [unpackDepth])
  rw [deep, reads depth _ _ (.between short), length, WireType.size_format]

def panel (e : EnumDecl) : Module := ⟨{ enums := [e] }, .merged⟩

/-- A declared signedness and magnitude, a negative number and a number that two enumerators have. -/
def dial : EnumDecl where
  name := "Dial"
  enumerators := [⟨"low", .number (-1)⟩, ⟨"mid", .number 127⟩, ⟨"high", .number 127⟩]
  signed? := some true
  max? := some (.number 127)

private theorem dial_consistent : dial.Consistent where
  signed := by
    rintro _ ⟨⟩ -
    rfl
  max := by
    rintro _ ⟨⟩
    decide

theorem unpack_pack_enumerators_dial :
    (panel dial).isSound ∧ dial.Consistent ∧ dial.plan.named? "Dial" "high" = some (.enumerator "Dial" "mid" 127) ∧
      ∃ b, (panel dial).packOwn {} (.enumerator "Dial" "mid" 127) = .ok b ∧
        ∀ before after data, data = before ++ b ++ after → data.length < 2 ^ 63 →
          ((panel dial).unpackOwn {} ((panel dial).unpackDepth data) "Dial" data before.length).result =
            .ok (.enumerator "Dial" "mid" 127, 2) := by
  have defined : (panel dial).definition? "Dial" = some (.enum dial.plan) := by decide +kernel
  have sound : (panel dial).isSound := by decide +kernel
  obtain ⟨held, returned⟩ := unpack_pack_enumerators {} sound defined dial_consistent
  obtain ⟨first, v, b, isFirst, rfl, named, packed, read⟩ :=
    returned (held.mpr (by decide)) ⟨"high", .number 127⟩ (by decide)
  cases isFirst
  exact ⟨sound, dial_consistent, named, b, packed, read⟩

end Module

end Counterpart
