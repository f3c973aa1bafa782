import Counterpart.Proofs.Decoding
import Mathlib.Data.Finset.Card
import Mathlib.Order.Monotone.Basic

/-!
Records from values for their first attributes. The other attributes have the values of their hints that none is given
for, which may be records again. Main statement: the depth that a unit allows for is enough for every record that can be
made at any depth, so that a record is made exactly if there are not too many values and each other attribute has one.
-/
namespace Counterpart

variable {e : Fault} {h : Hint} {attributes : List Parameter} {given : List Value} {fuel : Nat}
variable {default : Parameter → Except Fault Value} {r : RecordDecl} {name : Text} {v : Value}

/-! ## Attributes -/

theorem exists_forall₂_ok_iff {ε α β : Type} {f : α → Except ε β} {xs : List α} :
    (∃ ys, List.Forall₂ (fun x y => f x = .ok y) xs ys) ↔ ∀ x ∈ xs, (f x).isOk := by
  induction xs with
  | nil => simp
  | cons x xs ih =>
    rw [List.forall_mem_cons, ← ih]
    constructor
    · rintro ⟨_, results⟩
      cases results with
      | cons done rest => exact ⟨by rw [done]; rfl, _, rest⟩
    · rintro ⟨done, ys, rest⟩
      obtain ⟨y, done⟩ := exists_of_isOk done
      exact ⟨y :: ys, .cons done rest⟩

theorem fillWith_ok_iff (fits : given.length ≤ attributes.length) {fields : List (Text × Value)} :
    fillWith default attributes given = .ok fields ↔
      ∃ rest, List.Forall₂ (fun a v => default a = .ok v) (attributes.drop given.length) rest ∧
        fields = (attributes.map (·.fieldName)).zip (given ++ rest) := by
  induction attributes, given using fillWith.induct generalizing fields with
  | case1 given =>
    obtain rfl : given = [] := by simpa using fits
    simp [fillWith, eq_comm]
  | case2 a attributes v given ih =>
    have fits : given.length ≤ attributes.length := by simpa using fits
    rw [fillWith]
    constructor
    · intro done
      obtain ⟨later, filled, made⟩ := of_bind_ok done
      cases made
      obtain ⟨rest, defaults, rfl⟩ := (ih fits).mp filled
      exact ⟨rest, by simpa using defaults, rfl⟩
    · rintro ⟨rest, defaults, rfl⟩
      rw [(ih fits).mpr ⟨rest, by simpa using defaults, rfl⟩]
      rfl
  | case3 a attributes ih =>
    rw [fillWith]
    constructor
    · intro done
      obtain ⟨v, first, done⟩ := of_bind_ok done
      obtain ⟨later, filled, made⟩ := of_bind_ok done
      cases made
      obtain ⟨rest, defaults, rfl⟩ := (ih (Nat.zero_le _)).mp filled
      exact ⟨v :: rest, .cons first defaults, rfl⟩
    · rintro ⟨rest, defaults, rfl⟩
      cases defaults with
      | cons first defaults =>
        rw [first, ok_bind, (ih (Nat.zero_le _)).mpr ⟨_, defaults, rfl⟩]
        rfl

theorem fillWith_error (failed : fillWith default attributes given = .error e) :
    ∃ a ∈ attributes.drop given.length, default a = .error e := by
  induction attributes, given using fillWith.induct with
  | case1 given => cases failed
  | case2 a attributes v given ih =>
    rcases of_bind_error failed with failed | ⟨later, -, made⟩
    · simpa using ih failed
    · cases made
  | case3 a attributes ih =>
    rcases of_bind_error failed with failed | ⟨v, -, failed⟩
    · exact ⟨a, List.mem_cons_self, failed⟩
    rcases of_bind_error failed with failed | ⟨later, -, made⟩
    · obtain ⟨a, among, failed⟩ := ih failed
      exact ⟨a, List.mem_cons_of_mem _ (List.mem_of_mem_drop among), failed⟩
    · cases made

namespace Module

variable {m : Module}

/-! ## Depth -/

/-- The value of a hint that none is given for, where records go so deep. -/
def emptyAt (m : Module) (fuel : Nat) : Hint → Except Fault Value :=
  m.emptyValue fun name r => m.makeRecord fuel name r []

theorem makeRecord_ok_iff : m.makeRecord (fuel + 1) name r given = .ok v ↔ given.length ≤ r.attributes.length ∧
      ∃ rest, List.Forall₂ (fun a v => m.emptyAt fuel (m.interface.hint none a.type) = .ok v)
          (r.attributes.drop given.length) rest ∧
        v = .record name ((r.attributes.map (·.fieldName)).zip (given ++ rest)) := by
  rw [makeRecord]
  by_cases fits : given.length ≤ r.attributes.length
  · rw [if_neg (Nat.not_lt.mpr fits)]
    constructor
    · intro done
      obtain ⟨fields, filled, rfl⟩ := of_map_ok done
      obtain ⟨rest, defaults, rfl⟩ := (fillWith_ok_iff fits).mp filled
      exact ⟨fits, rest, defaults, rfl⟩
    · rintro ⟨-, rest, defaults, rfl⟩
      have filled := (fillWith_ok_iff fits).mpr ⟨rest, defaults, rfl⟩
      simp only [emptyAt] at filled
      rw [filled]
      rfl
  · rw [if_pos (Nat.not_le.mp fits)]
    simp [fits]

theorem emptyAt_named {symbol : Text} : m.emptyAt fuel (.named symbol) = .ok v ↔
    (∃ r, m.definition? symbol = some (.record r) ∧ m.makeRecord fuel symbol r [] = .ok v) ∨
      ∃ plan, m.definition? symbol = some (.enum plan) ∧ plan.first? symbol = some v := by
  simp only [emptyAt, emptyValue, classNamed]
  rcases m.definition? symbol with _ | (plan | r | c | c | c | c)
  case some.enum =>
    cases first : plan.first? symbol <;> simp [first]
  all_goals simp

/-- A value of a hint can only lack for want of a class, of an enumerator, or of a record. -/
theorem emptyAt_error (failed : m.emptyAt fuel h = .error e) :
    (∃ symbol, e = .undefined symbol) ∨ e = .noEnumerators ∨ ∃ r name, m.makeRecord fuel name r [] = .error e := by
  cases h with
  | named symbol =>
    simp only [emptyAt, emptyValue, classNamed] at failed
    split at failed
    next plan found =>
      rw [ok_bind] at failed
      dsimp only at failed
      split at failed <;> cases failed
      exact .inr (.inl rfl)
    next r found => exact .inr (.inr ⟨r, symbol, failed⟩)
    next =>
      cases failed
      exact .inl ⟨symbol, rfl⟩
  | _ => cases failed

theorem makeRecord_error
    (fits : given.length ≤ r.attributes.length) (failed : m.makeRecord (fuel + 1) name r given = .error e) :
    ∃ a ∈ r.attributes.drop given.length, m.emptyAt fuel (m.interface.hint none a.type) = .error e := by
  rw [makeRecord, if_neg (Nat.not_lt.mpr fits)] at failed
  exact fillWith_error (of_map_error failed)

theorem emptyAt_succ (done : m.emptyAt fuel h = .ok v) : m.emptyAt (fuel + 1) h = .ok v := by
  induction fuel generalizing h v with
  | zero =>
    cases h with
    | named symbol =>
      rcases emptyAt_named.mp done with ⟨r, found, made⟩ | isEnum
      · cases made
      · exact emptyAt_named.mpr (.inr isEnum)
    | _ => exact done
  | succ fuel ih =>
    cases h with
    | named symbol =>
      rcases emptyAt_named.mp done with ⟨r, found, made⟩ | isEnum
      · obtain ⟨fits, rest, defaults, rfl⟩ := makeRecord_ok_iff.mp made
        exact emptyAt_named.mpr (.inl ⟨r, found, makeRecord_ok_iff.mpr ⟨fits, rest, defaults.imp fun _ _ => ih, rfl⟩⟩)
      · exact emptyAt_named.mpr (.inr isEnum)
    | _ => exact done

theorem emptyAt_of_le {more : Nat} (le : fuel ≤ more) (done : m.emptyAt fuel h = .ok v) :
    m.emptyAt more h = .ok v := by
  induction le with
  | refl => exact done
  | step _ ih => exact emptyAt_succ ih

private theorem settled_succ (settled : ∀ h v, m.emptyAt (fuel + 1) h = .ok v → m.emptyAt fuel h = .ok v)
    (done : m.emptyAt (fuel + 2) h = .ok v) : m.emptyAt (fuel + 1) h = .ok v := by
  cases h with
  | named symbol =>
    rcases emptyAt_named.mp done with ⟨r, found, made⟩ | isEnum
    · obtain ⟨fits, rest, defaults, rfl⟩ := makeRecord_ok_iff.mp made
      refine emptyAt_named.mpr (.inl ⟨r, found, makeRecord_ok_iff.mpr ⟨fits, rest, ?_, rfl⟩⟩)
      exact defaults.imp fun _ _ => settled _ _
    · exact emptyAt_named.mpr (.inr isEnum)
  | _ => exact done

/-- The records that can be made without values at a depth. -/
private def makeable (m : Module) (fuel : Nat) : Finset Text :=
  (m.interface.records.map (·.name)).toFinset.filter fun name => (m.emptyAt fuel (.named name)).isOk

private theorem makeable_mono : Monotone m.makeable :=
  monotone_nat_of_le_succ fun fuel => Finset.monotone_filter_right _ fun _ _ made => by
    obtain ⟨v, made⟩ := exists_of_isOk made
    rw [emptyAt_succ made]
    rfl

private theorem settled_of_makeable (same : m.makeable fuel = m.makeable (fuel + 1))
    (done : m.emptyAt (fuel + 1) h = .ok v) : m.emptyAt fuel h = .ok v := by
  cases h with
  | named symbol =>
    rcases emptyAt_named.mp done with ⟨r, found, made⟩ | isEnum
    · have among : symbol ∈ m.makeable fuel := by
        rw [same, makeable, Finset.mem_filter, List.mem_toFinset, done]
        obtain ⟨declared, rfl⟩ := mem_records_of_definition? found
        exact ⟨List.mem_map_of_mem declared, rfl⟩
      obtain ⟨v', made'⟩ := exists_of_isOk (Finset.mem_filter.mp among).2
      cases (emptyAt_succ made').symm.trans done
      exact made'
    · exact emptyAt_named.mpr (.inr isEnum)
  | _ => exact done

/-- As many levels as there are records are enough for whatever can be made at all: each level makes a new record, or
else no deeper one does. -/
theorem emptyAt_records (done : m.emptyAt fuel h = .ok v) : m.emptyAt m.interface.records.length h = .ok v := by
  have bounded : ∀ fuel, (m.makeable fuel).card ≤ m.interface.records.length := fun fuel =>
    calc (m.makeable fuel).card ≤ (m.interface.records.map (·.name)).toFinset.card := Finset.card_filter_le _ _
      _ ≤ m.interface.records.length := by simpa using List.toFinset_card_le (m.interface.records.map (·.name))
  have stays : ∀ fuel, (m.makeable fuel).card = (m.makeable (fuel + 1)).card →
      (m.makeable (fuel + 1)).card = (m.makeable (fuel + 2)).card := by
    intro fuel same
    have equal := Finset.eq_of_subset_of_card_le (makeable_mono fuel.le_succ) same.ge
    refine congrArg Finset.card (Finset.Subset.antisymm (makeable_mono (fuel + 1).le_succ) ?_)
    refine Finset.monotone_filter_right _ fun name _ made => ?_
    obtain ⟨v, made⟩ := exists_of_isOk made
    rw [settled_succ (fun _ _ => settled_of_makeable equal) made]
    rfl
  have settled : ∀ fuel, m.interface.records.length ≤ fuel → m.makeable fuel = m.makeable (fuel + 1) := by
    intro fuel enough
    have counts {more : Nat} := Nat.stabilises_of_monotone (n := more)
      (fun _ _ le => Finset.card_le_card (makeable_mono le)) bounded stays
    refine Finset.eq_of_subset_of_card_le (makeable_mono fuel.le_succ) ?_
    rw [counts enough, counts (enough.trans fuel.le_succ)]
  rcases Nat.le_total fuel m.interface.records.length with few | enough
  · exact emptyAt_of_le few done
  · induction enough with
    | refl => exact done
    | step more ih => exact ih (settled_of_makeable (settled _ more) done)

def blank (m : Module) (h : Hint) : Except Fault Value := m.emptyAt m.depth h

theorem blank_ok_iff : m.blank h = .ok v ↔ ∃ fuel, m.emptyAt fuel h = .ok v :=
  ⟨fun done => ⟨m.depth, done⟩, fun ⟨_, done⟩ => emptyAt_succ (emptyAt_records done)⟩

/-- A record is made exactly if there are not too many values and each other attribute has a value of its own. -/
theorem record_ok_iff : m.record name r given = .ok v ↔ given.length ≤ r.attributes.length ∧
      ∃ rest, List.Forall₂ (fun a v => m.blank (m.interface.hint none a.type) = .ok v)
          (r.attributes.drop given.length) rest ∧
        v = .record name ((r.attributes.map (·.fieldName)).zip (given ++ rest)) := by
  have same : ∀ (a : Parameter) (v : Value), m.blank (m.interface.hint none a.type) = .ok v ↔
      m.emptyAt m.interface.records.length (m.interface.hint none a.type) = .ok v := fun a v =>
    ⟨emptyAt_records, emptyAt_succ⟩
  simp only [record, depth, makeRecord_ok_iff, same]

end Module
end Counterpart
