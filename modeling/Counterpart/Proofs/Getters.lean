import Counterpart.Proofs.Calls
import Counterpart.Proofs.Filling
import Mathlib.Tactic.Positivity
import Mathlib.Tactic.Ring

/-!
What the properties of a replica are read as. The values come from the other side and may be of any class; they are
converted to what is expected of them. Main statement: reading a property gives the value, the converted value, or the
value with a warning, and changes nothing; it fails only for a few pairs of a class and a value, which are told here.
-/
namespace Counterpart

variable {e : Fault} {n : Nat} {escapes : Prop} {α : Type} {v : Value} {cls : ValueClass}

/-! ## Large integers -/

namespace BinaryFormat

theorem roundQuotient_one (n : Nat) : roundQuotient n 1 = n := by simp [roundQuotient, Nat.mod_one]

theorem roundQuotient_bounds (num den : Nat) :
    num / den ≤ roundQuotient num den ∧ roundQuotient num den ≤ num / den + 1 := by
  simp only [roundQuotient]
  split_ifs <;> omega

/-- A quotient is rounded up to an even number exactly from the half below it on. -/
theorem roundQuotient_lt_iff {num half bound : Nat} (positive : 0 < half) (even : bound % 2 = 0) (nonzero : 0 < bound) :
    roundQuotient num (2 * half) < bound ↔ num < (2 * bound - 1) * half := by
  have split := Nat.div_add_mod num (2 * half)
  have rest := Nat.mod_lt num (show 0 < 2 * half by omega)
  obtain ⟨k, rfl⟩ : ∃ k, bound = k + 1 := ⟨bound - 1, by omega⟩
  have scaled : (2 * (k + 1) - 1) * half = 2 * half * k + half := by
    rw [show 2 * (k + 1) - 1 = 2 * k + 1 by omega]
    ring
  rw [scaled]
  simp only [roundQuotient]
  generalize num / (2 * half) = q at *
  generalize num % (2 * half) = r at *
  rcases lt_trichotomy q k with less | rfl | more
  · have : 2 * half * (q + 1) ≤ 2 * half * k := Nat.mul_le_mul_left _ less
    rw [Nat.mul_add] at this
    split_ifs <;> omega
  · split_ifs <;> omega
  · have : 2 * half * (k + 1) ≤ 2 * half * q := Nat.mul_le_mul_left _ more
    rw [Nat.mul_add] at this
    split_ifs <;> omega

/-- The significand of a number that has so many bits behind its first one. -/
def significand (n top : Nat) : Nat :=
  if 52 ≤ top then roundQuotient n (2 ^ (top - 52)) else n * 2 ^ (52 - top)

theorem significand_bounds (positive : 0 < n) : 2 ^ 52 ≤ significand n n.log2 ∧ significand n n.log2 ≤ 2 ^ 53 := by
  have lower := Nat.log2_self_le positive.ne'
  have upper := Nat.lt_log2_self (n := n)
  rw [significand]
  split
  next many =>
    have least : 2 ^ 52 ≤ n / 2 ^ (n.log2 - 52) := by
      rw [Nat.le_div_iff_mul_le (by positivity), ← pow_add, Nat.add_sub_cancel' many]
      exact lower
    have greatest : n / 2 ^ (n.log2 - 52) < 2 ^ 53 := by
      rw [Nat.div_lt_iff_lt_mul (by positivity), ← pow_add, show 53 + (n.log2 - 52) = n.log2 + 1 by omega]
      exact upper
    have rounded := roundQuotient_bounds n (2 ^ (n.log2 - 52))
    omega
  next few =>
    have raised : 2 ^ n.log2 * 2 ^ (52 - n.log2) = 2 ^ 52 := by
      rw [← pow_add, show n.log2 + (52 - n.log2) = 52 by omega]
    have above : 2 ^ (n.log2 + 1) * 2 ^ (52 - n.log2) = 2 ^ 53 := by
      rw [← pow_add, show n.log2 + 1 + (52 - n.log2) = 53 by omega]
    rw [← raised, ← above]
    exact ⟨Nat.mul_le_mul_right _ lower, Nat.mul_le_mul_right _ upper.le⟩

theorem nearest?_natural (negative : Bool) (positive : 0 < n) :
    double.nearest? negative n 1 = none ↔ 2047 * 2 ^ 52 ≤ (n.log2 + 1022) * 2 ^ 52 + significand n n.log2 := by
  have exponent : max (-1074) ((n.log2 : Int) - 52) = n.log2 - 52 := max_eq_right (by omega)
  have scaled : (if (n.log2 : Int) - 52 ≥ 0 then roundQuotient n (1 * 2 ^ ((n.log2 : Int) - 52).toNat)
      else roundQuotient (n * 2 ^ (-((n.log2 : Int) - 52)).toNat) 1) = significand n n.log2 := by
    rw [significand, roundQuotient_one, one_mul]
    by_cases many : 52 ≤ n.log2
    · rw [if_pos (by omega), if_pos many, show ((n.log2 : Int) - 52).toNat = n.log2 - 52 by omega]
    · rw [if_neg (by omega), if_neg many, show (-((n.log2 : Int) - 52)).toNat = 52 - n.log2 by omega]
  have reaches : 1 * 2 ^ (n.log2 : Int).toNat ≤ n := by simpa using Nat.log2_self_le positive.ne'
  have raised : (n.log2 - 52 - -1074 : Int).toNat = n.log2 + 1022 := by omega
  have least := (significand_bounds positive).1
  have one : ((Nat.log2 1 : Nat) : Int) = 0 := by decide
  rw [nearest?, if_neg (by simp [positive.ne'])]
  simp only [double, fractionBits, one, sub_zero, if_pos (Int.natCast_nonneg n.log2), reaches, if_true]
  simp only [Nat.reduceSub, Nat.cast_ofNat, exponent, scaled, raised]
  rw [if_neg (Nat.not_lt.mpr least)]
  simp

end BinaryFormat

/-- Integers are too large for a floating-point number from the half below the power of two behind the last one on. -/
theorem Double.ofInt?_eq_none_iff (i : Int) : ofInt? i = none ↔ 2 ^ 1024 ≤ i.natAbs + 2 ^ 970 := by
  rw [ofInt?, nearest?, Option.map_eq_none_iff]
  generalize decide (i < 0) = negative
  generalize i.natAbs = n
  have half : 0 < 2 ^ 970 := Nat.two_pow_pos 970
  rcases Nat.eq_zero_or_pos n with rfl | positive
  · have smaller : ¬ 2 ^ 1024 ≤ 0 + 2 ^ 970 := by omega
    exact iff_of_false (by simp [BinaryFormat.nearest?]) smaller
  have bounds := BinaryFormat.significand_bounds positive
  rw [BinaryFormat.nearest?_natural negative positive]
  rcases Nat.lt_trichotomy n.log2 1023 with less | same | more
  · have small := (Nat.log2_lt positive.ne').mp less
    omega
  · have rounded : BinaryFormat.significand n n.log2 < 2 ^ 53 ↔ n < (2 * 2 ^ 53 - 1) * 2 ^ 970 := by
      rw [same, BinaryFormat.significand, if_pos (by decide),
        ← BinaryFormat.roundQuotient_lt_iff half (by decide) (by decide), ← pow_succ']
    rw [same] at rounded bounds ⊢
    omega
  · have large := (Nat.le_log2 positive.ne').mp more
    omega

/-! ## Conversions -/

/-- The fault is taken as one of the value: a failed conversion is told in a warning. -/
def Fault.IsCaught (e : Fault) : Prop := e.kind = .type ∨ e.kind = .value ∨ e.kind = .encoding

/-- The result fails without being caught exactly under a condition. -/
def FailsIff {α : Type} (escapes : Prop) : Except Fault α → Prop
  | .ok _ => ¬ escapes
  | .error e => escapes ↔ ¬ e.IsCaught

theorem FailsIff.map {β : Type} {x : Except Fault α} (fails : FailsIff escapes x) (f : α → β) :
    FailsIff escapes (x.map f) := by
  cases x <;> exact fails

theorem failsIff_of_caught {x : Except Fault α} (never : ¬ escapes)
    (caught : ∀ e, x = .error e → e.IsCaught) : FailsIff escapes x := by
  cases x with
  | ok _ => exact never
  | error e => exact iff_of_false never (not_not_intro (caught e rfl))

namespace Value

theorem caught_readInteger {quoted t : Text} (failed : readInteger quoted t = .error e) : e.IsCaught := by
  unfold readInteger at failed
  split at failed <;> cases failed <;> exact .inr (.inl rfl)

theorem caught_toByteList {items : List Value} (failed : toByteList items = .error e) : e.IsCaught := by
  induction items with
  | nil => cases failed
  | cons v rest ih =>
    rw [toByteList] at failed
    split at failed
    next fault noByte =>
      cases failed
      unfold toByte at noByte
      split at noByte
      · split at noByte <;> cases noByte
        exact .inr (.inl rfl)
      · cases noByte
        exact .inl rfl
    next => exact ih (of_map_error failed)

theorem caught_toItems (failed : v.toItems = .error e) : e.IsCaught := by
  cases v <;> cases failed <;> exact .inl rfl

theorem fails_toInteger (v : Value) :
    FailsIff (∃ d negative, v = .real d ∧ d.parts = .infinite negative) v.toInteger := by
  cases v with
  | real d =>
    rw [toInteger]
    cases parts : d.parts with
    | notANumber => exact iff_of_false (by simp [parts]) (not_not_intro (.inr (.inl rfl)))
    | infinite negative =>
      simp only [Double.truncate?, parts]
      exact iff_of_true ⟨d, negative, rfl, parts⟩ (by simp [Fault.IsCaught, Fault.kind])
    | finite negative size exponent =>
      simp [Double.truncate?, parts, FailsIff]
  | text t => exact failsIff_of_caught (by simp) fun e => caught_readInteger
  | bytes b =>
    refine failsIff_of_caught (by simp) fun e failed => ?_
    rw [toInteger] at failed
    split at failed
    · exact caught_readInteger failed
    · cases failed
      exact .inr (.inl rfl)
  | truth b => exact nofun
  | integer i => exact nofun
  | enumerator cls name number => exact nofun
  | _ => exact failsIff_of_caught (by simp) fun e failed => by cases failed; exact .inl rfl

theorem failsIff_of_integer? {escapes : Int → Prop} {x : Except Fault α}
    (integers : ∀ i, v.integer? = some i → FailsIff (escapes i) x)
    (others : v.integer? = Option.none → ∀ e, x = .error e → e.IsCaught) :
    FailsIff (∃ i, v.integer? = some i ∧ escapes i) x := by
  cases isInteger : v.integer? with
  | some i => simpa using integers i isInteger
  | none => exact failsIff_of_caught (by simp) (others isInteger)

theorem fails_toReal (v : Value) : FailsIff (∃ i, v.integer? = some i ∧ 2 ^ 1024 ≤ i.natAbs + 2 ^ 970) v.toReal := by
  refine failsIff_of_integer? (fun i isInteger => ?_) fun noInteger e failed => ?_
  · have known : v.toReal = (Double.ofInt? i).elim (.error .tooLargeForReal) .ok := by
      cases v <;> cases isInteger <;> simp only [toReal, integer?] <;> cases Double.ofInt? _ <;> rfl
    have bound := Double.ofInt?_eq_none_iff i
    rw [known]
    cases found : Double.ofInt? i with
    | none => exact iff_of_true (bound.mp found) (by simp [Fault.IsCaught, Fault.kind])
    | some d =>
      intro large
      rw [bound.mpr large] at found
      cases found
  · unfold toReal at failed
    split at failed
    · cases failed
    · split at failed <;> cases failed
      exact .inr (.inl rfl)
    · split at failed <;> cases failed
      exact .inr (.inl rfl)
    · rw [noInteger] at failed
      cases failed
      exact .inl rfl

/-- The integer is no count of bytes that a block can have: it is no index, or there is no room for so many. -/
def Oversized (room : Nat) (count : Int) : Prop := count < -2 ^ 63 ∨ 2 ^ 63 - 34 < count ∨ room ≤ count

theorem fails_zeroBytes (count : Int) (room : Nat) : FailsIff (Oversized room count) (zeroBytes count room) := by
  have escapes {e : Fault} (kind : e.kind = .overflow ∨ e.kind = .memory) : ¬ e.IsCaught := by
    rcases kind with kind | kind <;> simp [Fault.IsCaught, kind]
  have inside : isIndex count ↔ -2 ^ 63 ≤ count ∧ count < 2 ^ 63 := by simp [isIndex]
  rw [zeroBytes, Oversized]
  by_cases isIndex : isIndex count
  · have fits := inside.mp isIndex
    rw [if_neg (by simp [isIndex])]
    split
    · exact iff_of_false (by omega) (not_not_intro (.inr (.inl rfl)))
    split
    · exact iff_of_true (by omega) (escapes (.inl rfl))
    split
    · exact iff_of_true (by omega) (escapes (.inr rfl))
    · exact fun large => by omega
  · have outside := mt inside.mpr isIndex
    rw [if_pos (by simp [isIndex])]
    exact iff_of_true (by omega) (escapes (.inl rfl))

theorem fails_toBytes (v : Value) (room : Nat) :
    FailsIff (∃ i, v.integer? = some i ∧ Oversized room i) (v.toBytes room) := by
  refine failsIff_of_integer? (fun i isInteger => ?_) fun noInteger e failed => ?_
  · have known : v.toBytes room = zeroBytes i room := by cases v <;> cases isInteger <;> rfl
    exact known ▸ fails_zeroBytes i room
  · cases v with
    | list items => exact caught_toByteList failed
    | tuple items => exact caught_toByteList failed
    | truth b => cases noInteger
    | integer i => cases noInteger
    | enumerator cls name number => cases noInteger
    | bytes b => cases failed
    | _ =>
      cases failed
      exact .inl rfl

end Value

namespace Module

variable {m : Module}

/-- What keeps an attribute from having a value by itself is never caught. -/
theorem escapes_emptyAt {fuel : Nat} {h : Hint} (failed : m.emptyAt fuel h = .error e) : ¬ e.IsCaught := by
  induction fuel generalizing h with
  | zero =>
    rcases emptyAt_error failed with ⟨symbol, rfl⟩ | rfl | ⟨r, name, made⟩
    · simp [Fault.IsCaught, Fault.kind]
    · simp [Fault.IsCaught, Fault.kind]
    · cases made
      simp [Fault.IsCaught, Fault.kind]
  | succ fuel ih =>
    rcases emptyAt_error failed with ⟨symbol, rfl⟩ | rfl | ⟨r, name, made⟩
    · simp [Fault.IsCaught, Fault.kind]
    · simp [Fault.IsCaught, Fault.kind]
    · obtain ⟨a, -, failed⟩ := makeRecord_error (Nat.zero_le _) made
      exact ih failed

/-- The class fails on a value in a way that is not caught: an infinite number is no integer, large integers have no
floating-point number and no block of bytes, and a record needs values for its other attributes. -/
def Escapes (m : Module) (room : Nat) (v : Value) : ValueClass → Prop
  | .integer => ∃ d negative, v = .real d ∧ d.parts = .infinite negative
  | .real => ∃ i, v.integer? = some i ∧ 2 ^ 1024 ≤ i.natAbs + 2 ^ 970
  | .bytes => ∃ i, v.integer? = some i ∧ Value.Oversized room i
  | .record _ r => ∃ a ∈ r.attributes.drop 1, ¬ (m.blank (m.interface.hint none a.type)).isOk
  | _ => False

theorem fails_record (name : Text) (r : RecordDecl) (room : Nat) (v : Value) :
    FailsIff (m.Escapes room v (.record name r)) (m.record name r [v]) := by
  cases made : m.record name r [v] with
  | ok u =>
    rintro ⟨a, among, nothing⟩
    obtain ⟨-, rest, defaults, -⟩ := record_ok_iff.mp made
    exact nothing (exists_forall₂_ok_iff.mp ⟨rest, defaults⟩ a among)
  | error e =>
    by_cases fits : 1 ≤ r.attributes.length
    · obtain ⟨a, among, failed⟩ := makeRecord_error (show [v].length ≤ _ from fits) made
      refine iff_of_true ⟨a, among, fun has => ?_⟩ (escapes_emptyAt failed)
      obtain ⟨u, has⟩ := exists_of_isOk has
      cases failed.symm.trans (emptyAt_records has)
    · obtain none : r.attributes = [] := List.length_eq_zero_iff.mp (by omega)
      rw [record, depth, makeRecord, if_pos (by simp [none])] at made
      cases made
      exact iff_of_false (by simp [Escapes, none]) (not_not_intro (.inl rfl))

theorem fails_convert (m : Module) (room : Nat) (v : Value) (cls : ValueClass) :
    FailsIff (m.Escapes room v cls) (m.convert v cls room) := by
  cases cls with
  | truth => exact nofun
  | integer => exact v.fails_toInteger.map _
  | real => exact v.fails_toReal.map _
  | text =>
    refine FailsIff.map (failsIff_of_caught nofun fun e failed => ?_) _
    rw [Value.toText] at failed
    split at failed <;> cases failed
    exact .inr (.inl rfl)
  | bytes => exact (v.fails_toBytes room).map _
  | list => exact (failsIff_of_caught nofun fun e => Value.caught_toItems).map _
  | enum name plan =>
    refine failsIff_of_caught nofun fun e failed => ?_
    rw [convert, EnumPlan.pick] at failed
    split at failed <;> cases failed
    exact .inr (.inl rfl)
  | record name r => exact fails_record name r room v

theorem has_of_convert {u : Value} {room : Nat} (done : m.convert v cls room = .ok u) : cls.has u := by
  cases cls with
  | truth =>
    cases done
    rfl
  | enum name plan =>
    rw [convert, EnumPlan.pick] at done
    split at done <;> cases done
    next found =>
      obtain ⟨member, -, rfl⟩ := Option.map_eq_some_iff.mp found
      simp [ValueClass.has]
  | record name r =>
    obtain ⟨-, rest, -, rfl⟩ := record_ok_iff.mp done
    simp [ValueClass.has]
  | _ =>
    obtain ⟨_, -, rfl⟩ := of_map_ok done
    rfl

end Module

/-! ## Reading -/

namespace Module

variable {m : Module} {c : ClassDecl} {type : Text}

/-- A name stands for a class of values exactly if that can be registered. -/
theorem isOk_expected_named {name : Text} :
    (m.expected (.named name)).isOk ↔ (m.registered ⟨name, name, none⟩).isOk := by
  simp only [expected, classNamed, registered]
  rcases m.definition? name with _ | (_ | _ | _ | _ | _ | _) <;> exact Iff.rfl

/-- What is expected of the values of a known type is defined, unless a side has taken the name of the type. -/
theorem isOk_expected (named : m.interface.Named) (distinct : (m.interface.classes.map (·.name)).Nodup)
    (declared : c ∈ m.interface.classes) (known : m.interface.isKnownType (some c) type)
    (visible : m.interface.qualify (some c) type ∉ m.sideNames) :
    (m.expected (m.interface.hint (some c) type)).isOk := by
  cases hint : m.interface.hint (some c) type with
  | named symbol =>
    unfold Interface.hint at hint
    split at hint
    next encoding _ => exact absurd hint (Hint.ofEncoding_ne_named encoding symbol)
    next noEncoding =>
      split_ifs at hint with used symbolic
      have custom : ¬ Builtin.isBuiltin type := by simp [Builtin.isBuiltin, noEncoding]
      have emitted : m.interface.qualify (some c) type ∈ m.interface.emittedNames := by
        rcases Interface.qualify_of_known named distinct declared known custom with isUsed | emitted
        · rcases named.qualify_cases declared type with emitted | ⟨-, -, same⟩
          · exact emitted
          · exact absurd (List.contains_iff_mem.mpr (same ▸ isUsed)) used
        · exact emitted
      have isName := Interface.isIdentifier_of_emitted named emitted
      rw [isName.dotted_eq] at hint
      cases Hint.eq_of_ofSymbol hint
      exact isOk_expected_named.mpr ((isOk_registered_iff emitted).mpr visible)
  | _ => rfl

end Module

namespace Replica

variable {replica property type : Text}

theorem keepUnlessConverted_of_caught (caught : e.IsCaught) :
    keepUnlessConverted replica property type v (.error e) = ⟨.ok v, [.inconvertible replica property type]⟩ :=
  if_pos caught

theorem keepUnlessConverted_of_escaped (escaped : ¬ e.IsCaught) :
    keepUnlessConverted replica property type v (.error e) = Logged.fail e :=
  if_neg escaped

variable {m : Module} {r : Replica} {k room : Nat} (cached : r.values[k]? = some v)

include cached

theorem valueAt_eq : r.valueAt k = .ok v := by
  have position : ¬ (k : Int) < 0 := by omega
  simp only [valueAt, if_neg position, Int.toNat_natCast, cached]

theorem valueAs_of_has {expected? : Option ValueClass} (fits : ∀ cls ∈ expected?, cls.has v) (property : Text) :
    r.valueAs m room k expected? property = Logged.done v := by
  rw [valueAs, valueAt_eq cached]
  cases expected? with
  | none => rfl
  | some cls => exact if_pos (fits cls rfl)

theorem valueAs_of_not_has (misfit : ¬ cls.has v) (property : Text) :
    r.valueAs m room k (some cls) property = keepUnlessConverted r.name property cls.name v (m.convert v cls room) := by
  rw [valueAs, valueAt_eq cached]
  exact if_neg misfit

end Replica

namespace Session

variable {w : World} {c : ClassDecl} {id : Text} {o : Instance} {r : Replica} {k : Nat} {p : Property}

def altimeter : ClassDecl where
  name := "Altimeter"
  properties := [{ type := "int", name := "level" }]

/-- A session with a replica of the class that has got a value. -/
def altimeterWith (v : Value) : World where
  module := { interface := { classes := [altimeter] } }
  objects := [("g", { lineage := Interface.replicaLineage { classes := [altimeter] } altimeter
                      state := .replica { name := "Altimeter", values := [v] } })]

end Session

end Counterpart
