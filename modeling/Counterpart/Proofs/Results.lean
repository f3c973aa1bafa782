import Counterpart.Logged
import Mathlib.Data.List.Forall2

/-!
Results that may be faults, with warnings or without, and lists of them. What goes on with a result is known from
the result and from what goes on with it.
-/
namespace Counterpart

/-! ## Results -/

section

variable {ε δ α β : Type}

@[simp] theorem ok_bind (a : α) (next : α → Except ε β) : (Except.ok a >>= next) = next a := rfl

@[simp] theorem error_bind (e : ε) (next : α → Except ε β) : (Except.error e >>= next) = .error e := rfl

@[simp] theorem ok_map (f : α → β) (a : α) : (Except.ok a : Except ε α).map f = .ok (f a) := rfl

@[simp] theorem ok_mapError (rename : ε → δ) (a : α) : (Except.ok a : Except ε α).mapError rename = .ok a := rfl

@[simp] theorem pure_eq_ok (a : α) : (pure a : Except ε α) = .ok a := rfl

theorem of_bind_ok {x : Except ε α} {next : α → Except ε β} {b : β} (done : (x >>= next) = .ok b) :
    ∃ a, x = .ok a ∧ next a = .ok b := by
  cases x with
  | error e => cases done
  | ok a => exact ⟨a, rfl, done⟩

theorem of_map_ok {f : α → β} {x : Except ε α} {b : β} (done : x.map f = .ok b) : ∃ a, x = .ok a ∧ f a = b := by
  cases x with
  | error e => cases done
  | ok a =>
    cases done
    exact ⟨a, rfl, rfl⟩

theorem of_mapError_ok {rename : ε → δ} {x : Except ε α} {a : α} (done : x.mapError rename = .ok a) : x = .ok a := by
  cases x with
  | error e => cases done
  | ok _ =>
    cases done
    rfl

theorem mapError_ok_iff {rename : ε → δ} {x : Except ε α} {a : α} : x.mapError rename = .ok a ↔ x = .ok a :=
  ⟨of_mapError_ok, fun done => by rw [done, ok_mapError]⟩

theorem of_bind_error {x : Except ε α} {next : α → Except ε β} {e : ε} (failed : (x >>= next) = .error e) :
    x = .error e ∨ ∃ a, x = .ok a ∧ next a = .error e := by
  cases x with
  | error e =>
    cases failed
    exact .inl rfl
  | ok a => exact .inr ⟨a, rfl, failed⟩

theorem of_map_error {f : α → β} {x : Except ε α} {e : ε} (failed : x.map f = .error e) : x = .error e := by
  cases x with
  | error e =>
    cases failed
    rfl
  | ok a => cases failed

theorem of_mapError_error {rename : ε → δ} {x : Except ε α} {e : δ} (failed : x.mapError rename = .error e) :
    ∃ own, x = .error own ∧ rename own = e := by
  cases x with
  | error own =>
    cases failed
    exact ⟨own, rfl, rfl⟩
  | ok a => cases failed

theorem exists_of_isOk {x : Except ε α} (done : x.isOk) : ∃ a, x = .ok a := by
  cases x with
  | error e => cases done
  | ok a => exact ⟨a, rfl⟩

theorem forall₂_of_mapM_ok {f : α → Except ε β} {xs : List α} {ys : List β} (done : xs.mapM f = .ok ys) :
    List.Forall₂ (fun x y => f x = .ok y) xs ys := by
  induction xs generalizing ys with
  | nil =>
    cases done
    exact .nil
  | cons first rest ih =>
    rw [List.mapM_cons] at done
    obtain ⟨y, head, done⟩ := of_bind_ok done
    obtain ⟨later, tail, done⟩ := of_bind_ok done
    cases done
    exact .cons head (ih tail)

theorem getElem?_of_mapM_ok {f : α → Except ε β} {xs : List α} {ys : List β} (done : xs.mapM f = .ok ys) {n : Nat}
    {x : α} (there : xs[n]? = some x) : ∃ y, ys[n]? = some y ∧ f x = .ok y := by
  have related := forall₂_of_mapM_ok done
  obtain ⟨inside, rfl⟩ := List.getElem?_eq_some_iff.mp there
  have alsoInside : n < ys.length := related.length_eq ▸ inside
  exact ⟨ys[n], List.getElem?_eq_getElem alsoInside, related.get inside alsoInside⟩

end

/-! ## Results with warnings -/

namespace Logged

variable {α β : Type}

@[simp] theorem result_pure (a : α) : (pure a : Logged α).result = .ok a := rfl

@[simp] theorem result_of (x : Except Fault α) : (of x).result = x := rfl

@[simp] theorem result_fail (e : Fault) : (fail e : Logged α).result = .error e := rfl

@[simp] theorem result_bind (x : Logged α) (next : α → Logged β) :
    (x >>= next).result = x.result >>= fun a => (next a).result := by
  rcases x with ⟨_ | _, _⟩ <;> rfl

@[simp] theorem result_mapFault (rename : Fault → Fault) (x : Logged α) :
    (x.mapFault rename).result = x.result.mapError rename := rfl

end Logged

end Counterpart
