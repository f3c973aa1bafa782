import Counterpart.Proofs.RoundTrip

/-!
The attributes of a record travel one after another. That neighbouring numbers travel in one go makes no difference
to the bytes, nor to the values that are read from them.
-/
namespace Counterpart

variable {b : Bytes} {attributes : List Parameter} {steps : List RecordStep} {vs : List Value} {n offset : Nat}
variable {format : NumberFormat} {a : Parameter}

def Interface.step (i : Interface) (a : Parameter) : RecordStep :=
  match Builtin.numberFormat? a.type with
  | some format => .numbers [(a, format)]
  | none => .single a (i.attributeCodec a)

theorem append_ok_iff {x y : Except Fault Bytes} : (do let first ← x; let later ← y; return first ++ later) = .ok b ↔
      ∃ first later, x = .ok first ∧ y = .ok later ∧ b = first ++ later := by
  constructor
  · intro packed
    obtain ⟨first, packedFirst, packed⟩ := of_bind_ok packed
    obtain ⟨later, packedLater, packed⟩ := of_bind_ok packed
    cases packed
    exact ⟨first, later, packedFirst, packedLater, rfl⟩
  · rintro ⟨first, later, packedFirst, packedLater, rfl⟩
    simp [packedFirst, packedLater]

namespace RecordStep

variable {offset : Int}

section Packing

variable {registry : Registry} {r : RecordDecl} {fields : List PackedField}

theorem packAll_cons_ok {step : RecordStep} : packAll registry r fields (step :: steps) = .ok b ↔
      ∃ first later, step.pack registry r fields = .ok first ∧ packAll registry r fields steps = .ok later ∧
        b = first ++ later :=
  append_ok_iff

private theorem pack_numbers_cons_ok (run : List (Parameter × NumberFormat)) :
    pack registry r fields (.numbers ((a, format) :: run)) = .ok b ↔
      ∃ first later, pack registry r fields (.numbers [(a, format)]) = .ok first ∧
        pack registry r fields (.numbers run) = .ok later ∧ b = first ++ later := by
  constructor
  · intro packed
    obtain ⟨numbers, found, packed⟩ := of_bind_ok packed
    obtain ⟨⟨v, own⟩, there, found⟩ := of_bind_ok found
    obtain ⟨others, foundLater, found⟩ := of_bind_ok found
    cases found
    obtain ⟨first, packedFirst, packed⟩ := of_bind_ok packed
    obtain ⟨later, packedLater, packed⟩ := of_bind_ok packed
    cases packed
    exact ⟨first, later, by simp [pack, numbersOf, there, packNumbers, packedFirst],
      by simp [pack, foundLater, packedLater], rfl⟩
  · rintro ⟨first, later, packedFirst, packedLater, rfl⟩
    obtain ⟨numbers, found, packedFirst⟩ := of_bind_ok packedFirst
    obtain ⟨⟨v, own⟩, there, found⟩ := of_bind_ok found
    cases found
    obtain ⟨bytes, packed, packedFirst⟩ := of_bind_ok packedFirst
    cases packedFirst
    obtain ⟨others, foundLater, packedLater⟩ := of_bind_ok packedLater
    simp [pack, numbersOf, there, foundLater, packNumbers, packed, packedLater]

private theorem packAll_consNumber : packAll registry r fields (consNumber a format steps) = .ok b ↔
      packAll registry r fields (.numbers [(a, format)] :: steps) = .ok b := by
  match steps with
  | [] => rfl
  | .single field codec :: rest => rfl
  | .numbers run :: rest =>
    simp only [consNumber, packAll_cons_ok, pack_numbers_cons_ok run]
    constructor
    · rintro ⟨_, later, ⟨first, second, packedFirst, packedSecond, rfl⟩, packedLater, rfl⟩
      exact ⟨first, second ++ later, packedFirst, ⟨second, later, packedSecond, packedLater, rfl⟩, by simp⟩
    · rintro ⟨first, _, packedFirst, ⟨second, later, packedSecond, packedLater, rfl⟩, rfl⟩
      exact ⟨first ++ second, later, ⟨first, second, packedFirst, packedSecond, rfl⟩, packedLater, by simp⟩

/-- Packing gives the same bytes whether or not neighbouring numbers travel in one go. -/
theorem packAll_recordSteps {i : Interface} : packAll registry r fields (i.recordSteps attributes) = .ok b ↔
      packAll registry r fields (attributes.map i.step) = .ok b := by
  induction attributes generalizing b with
  | nil => rfl
  | cons a rest ih =>
    cases format : Builtin.numberFormat? a.type with
    | none =>
      simp only [Interface.recordSteps, format, List.map_cons, Interface.step, packAll_cons_ok, ih]
    | some format' =>
      simp only [Interface.recordSteps, format, List.map_cons, Interface.step, packAll_consNumber, packAll_cons_ok, ih]

end Packing

section Unpacking

variable {i : Interface} {registry : Registry} {own : Text → Unpacker} {r : RecordDecl} {data : Bytes}

theorem unpackAll_cons_ok {step : RecordStep} :
    (unpackAll i registry own r data (step :: steps) offset).result = .ok (vs, n) ↔
      ∃ first size later sizes, (step.unpack i registry own r data offset).result = .ok (first, size) ∧
        (unpackAll i registry own r data steps (offset + size)).result = .ok (later, sizes) ∧
        vs = first ++ later ∧ n = size + sizes := by
  simp only [unpackAll, Logged.result_bind, Logged.result_pure]
  constructor
  · intro unpacked
    obtain ⟨⟨first, size⟩, readFirst, unpacked⟩ := of_bind_ok unpacked
    obtain ⟨⟨later, sizes⟩, readLater, unpacked⟩ := of_bind_ok unpacked
    cases unpacked
    exact ⟨first, size, later, sizes, readFirst, readLater, rfl, rfl⟩
  · rintro ⟨first, size, later, sizes, readFirst, readLater, rfl, rfl⟩
    simp [readFirst, readLater]

theorem unpack_numbers_ok {run : List (Parameter × NumberFormat)} :
    (unpack i registry own r data offset (.numbers run)).result = .ok (vs, n) ↔
      ∃ b, data.window offset n = .ok b ∧ n = (run.map (·.2.size)).sum ∧ vs = readNumbers run b := by
  simp only [unpack, Logged.result_bind, Logged.result_of, Logged.result_pure]
  constructor
  · intro unpacked
    obtain ⟨b, found, unpacked⟩ := of_bind_ok unpacked
    cases unpacked
    exact ⟨b, found, rfl, rfl⟩
  · rintro ⟨b, found, rfl, rfl⟩
    simp [found]

private theorem unpack_numbers_cons_ok (short : data.length < 2 ^ 63) {a : Parameter} {format : NumberFormat}
    (run : List (Parameter × NumberFormat)) {offset : Nat} {vs : List Value} {n : Nat} :
    (unpack i registry own r data offset (.numbers ((a, format) :: run))).result = .ok (vs, n) ↔
      ∃ first size later sizes,
        (unpack i registry own r data offset (.numbers [(a, format)])).result = .ok (first, size) ∧
        (unpack i registry own r data (offset + size) (.numbers run)).result = .ok (later, sizes) ∧
        vs = first ++ later ∧ n = size + sizes := by
  simp only [unpack_numbers_ok, List.map_cons, List.sum_cons, List.map_nil, List.sum_nil, Nat.add_zero]
  have split {first later : Bytes} (length : first.length = format.size) :
      readNumbers ((a, format) :: run) (first ++ later) = readNumbers [(a, format)] first ++ readNumbers run later := by
    simp [readNumbers, ← length]
  constructor
  · rintro ⟨b, found, rfl, rfl⟩
    obtain ⟨first, later, foundFirst, foundLater, rfl⟩ := (Bytes.window_add short).mp found
    exact ⟨_, _, _, _, ⟨first, foundFirst, rfl, rfl⟩, ⟨later, foundLater, rfl, rfl⟩,
      split (Bytes.length_of_window short foundFirst), rfl⟩
  · rintro ⟨_, _, _, _, ⟨first, foundFirst, rfl, rfl⟩, ⟨later, foundLater, rfl, rfl⟩, rfl, rfl⟩
    exact ⟨first ++ later, (Bytes.window_add short).mpr ⟨first, later, foundFirst, foundLater, rfl⟩, rfl,
      (split (Bytes.length_of_window short foundFirst)).symm⟩

private theorem unpackAll_consNumber (short : data.length < 2 ^ 63) {a : Parameter} {format : NumberFormat}
    {steps : List RecordStep} {offset : Nat} {vs : List Value} {n : Nat} :
    (unpackAll i registry own r data (consNumber a format steps) offset).result = .ok (vs, n) ↔
      (unpackAll i registry own r data (.numbers [(a, format)] :: steps) offset).result = .ok (vs, n) := by
  match steps with
  | [] => rfl
  | .single field codec :: rest => rfl
  | .numbers run :: rest =>
    simp only [consNumber, unpackAll_cons_ok, unpack_numbers_cons_ok short run]
    constructor
    · rintro ⟨_, _, later, sizes, ⟨first, size, second, size', readFirst, readSecond, rfl, rfl⟩, readLater, rfl, rfl⟩
      refine ⟨first, size, _, _, readFirst, ⟨second, size', later, sizes, readSecond, ?_, rfl, rfl⟩, by simp, by omega⟩
      simpa [Int.add_assoc] using readLater
    · rintro ⟨first, size, _, _, readFirst, ⟨second, size', later, sizes, readSecond, readLater, rfl, rfl⟩, rfl, rfl⟩
      refine ⟨_, _, later, sizes, ⟨first, size, second, size', readFirst, readSecond, rfl, rfl⟩, ?_, by simp, by omega⟩
      simpa [Int.add_assoc] using readLater

/-- Unpacking gives the same values whether or not neighbouring numbers travel in one go. -/
theorem unpackAll_recordSteps (short : data.length < 2 ^ 63) {attributes : List Parameter} {offset : Nat}
    {vs : List Value} {n : Nat} :
    (unpackAll i registry own r data (i.recordSteps attributes) offset).result = .ok (vs, n) ↔
      (unpackAll i registry own r data (attributes.map i.step) offset).result = .ok (vs, n) := by
  induction attributes generalizing offset vs n with
  | nil => rfl
  | cons a rest ih =>
    have later (size : Nat) (vs : List Value) (n : Nat) :
        (unpackAll i registry own r data (i.recordSteps rest) (offset + size)).result = .ok (vs, n) ↔
          (unpackAll i registry own r data (rest.map i.step) (offset + size)).result = .ok (vs, n) := by
      rw [← Int.natCast_add]
      exact ih
    cases format : Builtin.numberFormat? a.type with
    | none =>
      simp only [Interface.recordSteps, format, List.map_cons, Interface.step, unpackAll_cons_ok, later]
    | some format' =>
      simp only [Interface.recordSteps, format, List.map_cons, Interface.step, unpackAll_consNumber short,
        unpackAll_cons_ok, later]

end Unpacking

end RecordStep

end Counterpart
