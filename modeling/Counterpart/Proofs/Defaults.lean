import Counterpart.Module.Construct
import Counterpart.Proofs.Results

/-!
Defaults by themselves and in a list. A list of defaults has the values that they have by themselves exactly if each
is one value and none but the last runs on into the next.
-/
namespace Counterpart

variable {e : DefaultExpr} {es rest : List DefaultExpr} {listed values later : List Value}

/-! ## Weights -/

namespace Value

mutual
/-- The number of values that a tuple comes to, counting the tuple itself. -/
def weight : Value → Nat
  | .tuple items => weights items + 1
  | _ => 1

def weights : List Value → Nat
  | [] => 0
  | v :: rest => weight v + weights rest
end

theorem weights_append (first later : List Value) : weights (first ++ later) = weights first + weights later := by
  induction first with
  | nil => simp [weights]
  | cons v rest ih => simp [weights, ih, Nat.add_assoc]

theorem weight_of_join {v w joined : Value} (done : v.join w = .ok joined) :
    weight joined = 1 ∧ weight v = 1 ∧ weight w = 1 := by
  unfold join at done
  split at done <;> cases done <;> exact ⟨rfl, rfl, rfl⟩

end Value

namespace Piece

open Value (weights weights_append weight_of_join)

theorem weight_value (p : Piece) : p.value.weight = weights p.items + if p.others?.isSome then 1 else 0 := by
  cases others : p.others? with
  | none => simp [value, items, others, weights]
  | some rest => simp [value, items, others, weights, Value.weight]

private theorem dropLast_items (p : Piece) : p.items.dropLast ++ [p.items.getLastD p.first] = p.items := by
  have nonempty : p.items ≠ [] := List.cons_ne_nil _ _
  rw [List.getLastD_eq_getLast?, List.getLast?_eq_some_getLast nonempty, Option.getD_some,
    List.dropLast_concat_getLast nonempty]

theorem followedBy_ne_nil {p : Piece} {items : List Value} (done : p.followedBy later = .ok items) : items ≠ [] := by
  unfold followedBy at done
  split at done
  · obtain ⟨joined, _, made⟩ := of_bind_ok done
    cases made
    simp
  · cases done
    simp [Piece.items]

/-- In a list a piece weighs no more than by itself, and less if it is a tuple or runs on. -/
theorem weights_followedBy {p : Piece} {items : List Value} (done : p.followedBy later = .ok items) :
    weights items ≤ p.value.weight + weights later ∧
      (p.value.weight + weights later ≤ weights items → p.others? = none ∧ (later ≠ [] → p.runsOn = false)) := by
  have whole := p.weight_value
  unfold followedBy at done
  split at done
  next next rest runsOn =>
    obtain ⟨joined, together, made⟩ := of_bind_ok done
    cases made
    obtain ⟨weightJoined, weightLast, weightNext⟩ := weight_of_join together
    have split := congrArg weights p.dropLast_items
    simp only [weights_append, weights] at split ⊢
    omega
  next apart =>
    cases done
    rw [weights_append]
    refine ⟨by omega, fun least => ⟨?_, fun more => ?_⟩⟩
    · cases others : p.others? with
      | none => rfl
      | some _ =>
        rw [others, Option.isSome_some, if_pos rfl] at whole
        omega
    · cases runsOn : p.runsOn with
      | false => rfl
      | true =>
        obtain ⟨first, rest, rfl⟩ := List.exists_cons_of_ne_nil more
        exact absurd rfl (apart first rest runsOn)

end Piece

/-! ## Lists of defaults -/

namespace DefaultExpr

open Value (weights weights_append)

variable {m : Module}

/-- Each expression is one value where it stands, and none but the last runs on into the next. -/
structure StandAlone (m : Module) (es : List DefaultExpr) : Prop where
  single : ∀ e ∈ es, ∀ p, piece m e = .ok p → p.others? = none
  closed : ∀ e ∈ es.dropLast, ∀ p, piece m e = .ok p → p.runsOn = false

instance (m : Module) (es : List DefaultExpr) : Decidable (StandAlone m es) :=
  decidable_of_iff ((∀ e ∈ es, (piece m e).toOption.all (·.others?.isNone)) ∧
      ∀ e ∈ es.dropLast, (piece m e).toOption.all (!·.runsOn)) (by
    constructor
    · rintro ⟨single, closed⟩
      refine ⟨fun e among p isPiece => ?_, fun e among p isPiece => ?_⟩
      · simpa [isPiece, Except.toOption] using single e among
      · simpa [isPiece, Except.toOption] using closed e among
    · rintro ⟨single, closed⟩
      refine ⟨fun e among => ?_, fun e among => ?_⟩
      · cases isPiece : piece m e with
        | error _ => rfl
        | ok p => simp [Except.toOption, single e among p isPiece]
      · cases isPiece : piece m e with
        | error _ => rfl
        | ok p => simp [Except.toOption, closed e among p isPiece])

theorem value_eq_piece (e : DefaultExpr) : value m e = (piece m e).map (·.value) := by
  cases e with
  | quoted source => rw [value, piece]
  | _ =>
    simp only [piece]
    cases value m _ <;> rfl

private theorem items_cons_ok (done : items m (e :: rest) = .ok listed) :
    ∃ p later, piece m e = .ok p ∧ items m rest = .ok later ∧ p.followedBy later = .ok listed := by
  rw [items] at done
  obtain ⟨p, isPiece, done⟩ := of_bind_ok done
  obtain ⟨later, restListed, done⟩ := of_bind_ok done
  exact ⟨p, later, isPiece, restListed, done⟩

private theorem eq_nil_of_items (done : items m es = .ok []) : es = [] := by
  cases es with
  | nil => rfl
  | cons e rest =>
    obtain ⟨_, _, _, _, followed⟩ := items_cons_ok done
    exact absurd rfl (Piece.followedBy_ne_nil followed)

private theorem values_cons_ok {p : Piece} (isPiece : piece m e = .ok p)
    (done : (e :: rest).mapM (value m) = .ok values) :
    ∃ later, rest.mapM (value m) = .ok later ∧ values = p.value :: later := by
  rw [List.mapM_cons, value_eq_piece, isPiece, ok_map, ok_bind] at done
  obtain ⟨later, restDone, done⟩ := of_bind_ok done
  cases done
  exact ⟨later, restDone, rfl⟩

private theorem standAlone_cons_iff {p : Piece} (isPiece : piece m e = .ok p) :
    StandAlone m (e :: rest) ↔ p.others? = none ∧ (rest ≠ [] → p.runsOn = false) ∧ StandAlone m rest := by
  have same {q : Piece} (isAlso : piece m e = .ok q) : q = p := Except.ok.inj (isAlso.symm.trans isPiece)
  cases rest with
  | nil =>
    constructor
    · exact fun alone => ⟨alone.single e (by simp) p isPiece, by simp, by simp, by simp⟩
    · rintro ⟨single, -, -⟩
      refine ⟨fun e' among q isAlso => ?_, by simp⟩
      cases List.mem_singleton.mp among
      rw [same isAlso, single]
  | cons next others =>
    constructor
    · intro alone
      refine ⟨alone.single e (by simp) p isPiece, fun _ => alone.closed e (by simp) p isPiece, ?_, ?_⟩
      · exact fun e' among => alone.single e' (by simp [among])
      · exact fun e' among => alone.closed e' (by simp [among])
    · rintro ⟨single, closed, alone⟩
      constructor
      · intro e' among q isAlso
        rcases List.mem_cons.mp among with rfl | among
        · rw [same isAlso, single]
        · exact alone.single e' among q isAlso
      · intro e' among q isAlso
        rw [List.dropLast_cons_cons] at among
        rcases List.mem_cons.mp among with rfl | among
        · rw [same isAlso, closed (by simp)]
        · exact alone.closed e' among q isAlso

/-- A list of defaults weighs no more than the defaults by themselves, and as much only if they stand alone. -/
private theorem weights_items (done : items m es = .ok listed) (each : es.mapM (value m) = .ok values) :
    weights listed ≤ weights values ∧ (weights values ≤ weights listed → StandAlone m es) := by
  induction es generalizing listed values with
  | nil =>
    cases done
    cases each
    exact ⟨Nat.le_refl _, fun _ => ⟨by simp, by simp⟩⟩
  | cons e rest ih =>
    obtain ⟨p, later, isPiece, restListed, followed⟩ := items_cons_ok done
    obtain ⟨laterValues, restValues, rfl⟩ := values_cons_ok isPiece each
    obtain ⟨light, tight⟩ := Piece.weights_followedBy followed
    obtain ⟨restLight, restTight⟩ := ih restListed restValues
    simp only [weights]
    refine ⟨by omega, fun least => ?_⟩
    obtain ⟨single, closed⟩ := tight (by omega)
    refine (standAlone_cons_iff isPiece).mpr ⟨single, fun more => closed ?_, restTight (by omega)⟩
    rintro rfl
    exact more (eq_nil_of_items restListed)

private theorem items_of_standAlone (alone : StandAlone m es)
    (done : items m es = .ok listed) (each : es.mapM (value m) = .ok values) : listed = values := by
  induction es generalizing listed values with
  | nil =>
    cases done
    cases each
    rfl
  | cons e rest ih =>
    obtain ⟨p, later, isPiece, restListed, followed⟩ := items_cons_ok done
    obtain ⟨laterValues, restValues, rfl⟩ := values_cons_ok isPiece each
    obtain ⟨single, closed, restAlone⟩ := (standAlone_cons_iff isPiece).mp alone
    have value : p.value = p.first := by simp [Piece.value, single]
    have items : p.items = [p.first] := by simp [Piece.items, single]
    rw [← ih restAlone restListed restValues, value]
    unfold Piece.followedBy at followed
    split at followed
    next next others runsOn =>
      have more : rest ≠ [] := by
        rintro rfl
        cases restListed
      rw [closed more] at runsOn
      cases runsOn
    next =>
      cases followed
      rw [items, List.singleton_append]

/-- A list of defaults starts with the values of the defaults by themselves exactly if they stand alone. -/
theorem standAlone_iff (done : items m es = .ok listed)
    (each : es.mapM (value m) = .ok values) : StandAlone m es ↔ values <+: listed := by
  constructor
  · intro alone
    obtain rfl := items_of_standAlone alone done each
    exact List.prefix_refl _
  · rintro ⟨more, rfl⟩
    exact (weights_items done each).2 (by rw [weights_append]; omega)

private theorem values_of_items (done : items m es = .ok listed) : ∃ values, es.mapM (value m) = .ok values := by
  induction es generalizing listed with
  | nil => exact ⟨[], rfl⟩
  | cons e rest ih =>
    obtain ⟨p, later, isPiece, restListed, -⟩ := items_cons_ok done
    obtain ⟨values, each⟩ := ih restListed
    exact ⟨p.value :: values, by rw [List.mapM_cons, value_eq_piece, isPiece, ok_map, ok_bind, each]; rfl⟩

theorem length_items (alone : StandAlone m es) (done : items m es = .ok listed) : listed.length = es.length := by
  obtain ⟨values, each⟩ := values_of_items done
  rw [items_of_standAlone alone done each]
  exact (forall₂_of_mapM_ok each).length_eq.symm

end DefaultExpr

end Counterpart
