import Counterpart.Proofs.Members
import Mathlib.Data.List.Dedup

/-!
What a registry holds after any types were registered in it. Ids are not stored apart from the types: a new name gets
the number of the names before it, counted from the first id, so that a name has its place as its id for good. The
codec of a name is that of the last call that found another type under the name, or none.
-/
namespace Counterpart

variable {id : Int} {place : Nat} {name : Text}

/-! ## Builtin names -/

namespace Builtin

theorem nodup_names : names.Nodup := by decide

theorem typeId?_eq_some_iff {id : Nat} : typeId? name = some id ↔ names[id]? = some name := by
  rw [typeId?, List.findIdx?_eq_some_iff_getElem]
  constructor
  · rintro ⟨within, found, -⟩
    rw [List.getElem?_eq_getElem within]
    simpa using found
  · intro placed
    obtain ⟨within, found⟩ := List.getElem?_eq_some_iff.1 placed
    refine ⟨within, by simpa using found, ?_⟩
    intro earlier before
    have other : names[earlier] ≠ names[id] := by
      rw [ne_eq, nodup_names.getElem_inj_iff]
      omega
    simpa [← found] using other

theorem typeId?_eq_none_iff : typeId? name = none ↔ name ∉ names := by
  simp only [typeId?, List.findIdx?_eq_none_iff, decide_eq_false_iff_not]
  exact ⟨fun none among => none name among rfl, fun absent other among same => absent (same ▸ among)⟩

theorem isBuiltin_iff : isBuiltin name = true ↔ name ∈ names := by
  simp only [isBuiltin, encoding?, Option.isSome_map, List.find?_isSome, decide_eq_true_eq, names, List.mem_map]

end Builtin

namespace Registry

variable {γ : Type} {r : Registry γ}

/-! ## One call -/

structure Call (γ : Type) where
  name : Text
  type : ClassRef
  codec : γ

/-- What a call returns, and the registry that it leaves. -/
def call (r : Registry γ) (c : Call γ) : Nat × Registry γ := r.register c.name c.type c.codec

/-- The call finds no type under its name, or another one. -/
def Replaces (r : Registry γ) (c : Call γ) : Prop := ∀ stored, r.lookup c.name = some stored → stored.type ≠ c.type

theorem lookup_eq_none_iff : r.lookup name = none ↔ name ∉ r.names := Keyed.get?_eq_none_iff

/-- Everything that a call can do. -/
theorem call_cases (r : Registry γ) (c : Call γ) :
    (∃ id, Builtin.names[id]? = some c.name ∧ r.call c = (id, r)) ∨
    (c.name ∉ Builtin.names ∧
      ∃ stored, r.lookup c.name = some stored ∧ stored.type = c.type ∧ r.call c = (stored.id, r)) ∨
    (c.name ∉ Builtin.names ∧ r.Replaces c ∧
      r.call c = (r.idFor c.name, { types := Keyed.set c.name ⟨c.type, r.idFor c.name, c.codec⟩ r.types })) := by
  cases builtin : Builtin.typeId? c.name with
  | some id => exact .inl ⟨id, Builtin.typeId?_eq_some_iff.1 builtin, by simp [call, register, builtin]⟩
  | none =>
    have foreign := Builtin.typeId?_eq_none_iff.1 builtin
    cases known : r.lookup c.name with
    | none => exact .inr (.inr ⟨foreign, by simp [Replaces, known], by simp [call, register, builtin, known]⟩)
    | some stored =>
      by_cases same : stored.type = c.type
      · exact .inr (.inl ⟨foreign, stored, rfl, same, by simp [call, register, builtin, known, same, idFor]⟩)
      · exact .inr (.inr ⟨foreign, by simpa [Replaces, known] using same,
          by simp [call, register, builtin, known, same]⟩)

/-- Names are different from one another and from the builtin ones, and the id of a name tells its place. -/
structure Numbered (r : Registry γ) : Prop where
  distinct : r.names.Nodup
  foreign : ∀ name ∈ r.names, name ∉ Builtin.names
  placed : ∀ place name, r.names[place]? = some name →
    ∃ stored, r.lookup name = some stored ∧ stored.id = firstId + place

theorem numbered_empty : ({} : Registry γ).Numbered where
  distinct := List.nodup_nil
  foreign := by simp [names, Keyed.keys]
  placed := by simp [names, Keyed.keys]

theorem names_call_of_old {c : Call γ} (old : c.name ∈ Builtin.names ∨ c.name ∈ r.names) :
    (r.call c).2.names = r.names := by
  rcases call_cases r c with ⟨id, -, called⟩ | ⟨-, stored, -, -, called⟩ | ⟨foreign, -, called⟩
  · rw [called]
  · rw [called]
  · exact called ▸ (Keyed.keys_set ..).trans (if_pos (old.resolve_left foreign))

theorem names_call_of_new {c : Call γ} (foreign : c.name ∉ Builtin.names) (new : c.name ∉ r.names) :
    (r.call c).2.names = r.names ++ [c.name] := by
  rcases call_cases r c with ⟨id, builtin, -⟩ | ⟨-, stored, known, -, -⟩ | ⟨-, -, called⟩
  · exact absurd (List.mem_of_getElem? builtin) foreign
  · simp [lookup_eq_none_iff.2 new] at known
  · exact called ▸ (Keyed.keys_set ..).trans (if_neg new)

theorem names_prefix_call (r : Registry γ) (c : Call γ) : r.names <+: (r.call c).2.names := by
  by_cases old : c.name ∈ Builtin.names ∨ c.name ∈ r.names
  · simp [names_call_of_old old]
  · rw [names_call_of_new (not_or.1 old).1 (not_or.1 old).2]
    exact List.prefix_append ..

/-- The id for a name is the one that tells its place, now or after the names that there are. -/
theorem Numbered.idFor_eq (numbered : r.Numbered)
    (there : r.names[place]? = some name ∨ name ∉ r.names ∧ place = r.names.length) :
    r.idFor name = firstId + place := by
  rcases there with there | ⟨new, rfl⟩
  · obtain ⟨stored, known, id⟩ := numbered.placed place name there
    simp [idFor, known, id]
  · simp [idFor, lookup_eq_none_iff.2 new, names, Keyed.keys]

theorem placed_call {c : Call γ} (there : (r.call c).2.names[place]? = some name) : r.names[place]? = some name ∨
      (name = c.name ∧ name ∉ Builtin.names ∧ name ∉ r.names ∧ place = r.names.length) := by
  by_cases old : c.name ∈ Builtin.names ∨ c.name ∈ r.names
  · rw [names_call_of_old old] at there
    exact .inl there
  · obtain ⟨foreign, new⟩ := not_or.1 old
    rw [names_call_of_new foreign new] at there
    rcases Nat.lt_or_ge place r.names.length with within | past
    · rw [List.getElem?_append_left within] at there
      exact .inl there
    · obtain ⟨at_end, same⟩ : place = r.names.length ∧ c.name = name := by
        rw [List.getElem?_append_right past, List.getElem?_singleton] at there
        split at there
        case isTrue here => exact ⟨by omega, Option.some.inj there⟩
        case isFalse => cases there
      exact .inr ⟨same.symm, same ▸ foreign, same ▸ new, at_end⟩

theorem Numbered.call (numbered : r.Numbered) (c : Call γ) : (r.call c).2.Numbered where
  distinct := by
    by_cases old : c.name ∈ Builtin.names ∨ c.name ∈ r.names
    · rw [names_call_of_old old]
      exact numbered.distinct
    · obtain ⟨foreign, new⟩ := not_or.1 old
      rw [names_call_of_new foreign new, ← List.concat_eq_append]
      exact numbered.distinct.concat new
  foreign := by
    intro name among
    obtain ⟨place, there⟩ := List.mem_iff_getElem?.1 among
    rcases placed_call there with old | ⟨-, foreign, -⟩
    · exact numbered.foreign name (List.mem_of_getElem? old)
    · exact foreign
  placed := by
    intro place name there
    have before := placed_call there
    rcases call_cases r c with ⟨id, builtin, called⟩ | ⟨-, stored, known, -, called⟩ | ⟨-, -, called⟩
    · rw [called] at there ⊢
      exact numbered.placed place name there
    · rw [called] at there ⊢
      exact numbered.placed place name there
    · by_cases same : name = c.name
      · refine ⟨⟨c.type, r.idFor c.name, c.codec⟩, ?_, numbered.idFor_eq ?_⟩
        · rw [called, lookup, same, Keyed.get?_set_self]
        · rw [← same]
          exact before.imp_right fun new => new.2.2
      · obtain ⟨stored, known, id⟩ := numbered.placed place name (before.resolve_right fun new => same new.1)
        exact ⟨stored, by rwa [called, lookup, Keyed.get?_set_of_ne same], id⟩

theorem Numbered.call_fst (numbered : r.Numbered) {c : Call γ}
    (there : (r.call c).2.names[place]? = some c.name) : (r.call c).1 = firstId + place := by
  have foreign := (numbered.call c).foreign c.name (List.mem_of_getElem? there)
  have before := placed_call there
  rcases call_cases r c with ⟨id, builtin, -⟩ | ⟨-, stored, known, -, called⟩ | ⟨-, -, called⟩
  · exact absurd (List.mem_of_getElem? builtin) foreign
  · rw [called] at there ⊢
    obtain ⟨other, found, id⟩ := numbered.placed place c.name there
    rw [known] at found
    cases found
    exact id
  · rw [called]
    exact numbered.idFor_eq (before.imp_right fun new => new.2.2)

/-! ## Ids -/

/-- The id that a name has from its place among the builtin names or among the registered ones. -/
def HasId (r : Registry γ) (name : Text) (id : Int) : Prop :=
  ∃ place : Nat, (Builtin.names[place]? = some name ∧ id = place) ∨
    (r.names[place]? = some name ∧ id = (firstId + place : Nat))

theorem exists_hasId (known : name ∈ Builtin.names ∨ name ∈ r.names) : ∃ id, r.HasId name id := by
  rcases known with among | among
  · obtain ⟨place, there⟩ := List.mem_iff_getElem?.1 among
    exact ⟨place, place, .inl ⟨there, rfl⟩⟩
  · obtain ⟨place, there⟩ := List.mem_iff_getElem?.1 among
    exact ⟨_, place, .inr ⟨there, rfl⟩⟩

theorem Numbered.typeId_eq (numbered : r.Numbered) (has : r.HasId name id) : r.typeId name = id := by
  obtain ⟨place, ⟨there, rfl⟩ | ⟨there, rfl⟩⟩ := has
  · simp [typeId, Builtin.typeId?_eq_some_iff.2 there]
  · have foreign := numbered.foreign name (List.mem_of_getElem? there)
    obtain ⟨stored, known, id⟩ := numbered.placed place name there
    simp [typeId, Builtin.typeId?_eq_none_iff.2 foreign, known, id]

theorem Numbered.hasId_of_mem (numbered : r.Numbered) {entry : Text × RegisteredType γ} (among : entry ∈ r.types) :
    r.HasId entry.1 entry.2.id := by
  obtain ⟨place, there⟩ := List.mem_iff_getElem?.1 (List.mem_map_of_mem among : entry.1 ∈ r.names)
  obtain ⟨stored, known, id⟩ := numbered.placed place entry.1 there
  have found : r.lookup entry.1 = some entry.2 := Keyed.get?_of_mem numbered.distinct among
  rw [known] at found
  cases found
  exact ⟨place, .inr ⟨there, by rw [id]⟩⟩

theorem Numbered.hasId_typeName (numbered : r.Numbered) (named : r.typeName id ≠ []) :
    r.HasId (r.typeName id) id := by
  unfold typeName at named ⊢
  split at named
  case isTrue builtin =>
    have within : id.toNat < Builtin.names.length := by omega
    rw [if_pos builtin, List.getElem?_eq_getElem within]
    exact ⟨id.toNat, .inl ⟨List.getElem?_eq_getElem within, by omega⟩⟩
  case isFalse other =>
    rw [if_neg other]
    split at named
    case h_1 name stored found =>
      have same : (stored.id : Int) = id := by simpa using List.find?_some found
      simpa [found, same] using numbered.hasId_of_mem (List.mem_of_find?_eq_some found)
    case h_2 => exact absurd rfl named

theorem builtin_before_first : Builtin.names.length ≤ firstId := by decide

theorem eq_of_hasId {one other : Text} (has : r.HasId one id) (too : r.HasId other id) : one = other := by
  have apart := builtin_before_first
  obtain ⟨place, ⟨there, rfl⟩ | ⟨there, rfl⟩⟩ := has <;> obtain ⟨place', ⟨there', same⟩ | ⟨there', same⟩⟩ := too
  all_goals
    have within := (List.getElem?_eq_some_iff.1 there).1
    have within' := (List.getElem?_eq_some_iff.1 there').1
  · obtain rfl : place = place' := by omega
    simpa [there] using there'
  · omega
  · omega
  · obtain rfl : place = place' := by omega
    simpa [there] using there'

theorem Numbered.typeName_eq (numbered : r.Numbered) (has : r.HasId name id) : r.typeName id = name := by
  have apart := builtin_before_first
  have ⟨place, placed⟩ := has
  rcases placed with ⟨there, same⟩ | ⟨there, same⟩
  · have within := (List.getElem?_eq_some_iff.1 there).1
    rw [typeName, if_pos (by omega), same]
    simp [there]
  · obtain ⟨stored, known, stored_id⟩ := numbered.placed place name there
    rw [typeName, if_neg (by omega)]
    split
    case h_1 other found_type found =>
      have found_id : (found_type.id : Int) = id := by simpa using List.find?_some found
      exact eq_of_hasId (found_id ▸ numbered.hasId_of_mem (List.mem_of_find?_eq_some found)) has
    case h_2 none =>
      have missed := List.find?_eq_none.1 none (name, stored) (Keyed.mem_of_get? known)
      simp [stored_id, same] at missed

/-! ## Any calls -/

def after (calls : List (Call γ)) : Registry γ := calls.foldl (fun r c => (r.call c).2) {}

/-- The names that calls register, each where it comes first. -/
def firstNames (calls : List (Call γ)) : List Text :=
  ((calls.map (·.name)).filter fun name => !Builtin.isBuiltin name).reverse.dedup.reverse

theorem after_concat (calls : List (Call γ)) (c : Call γ) : after (calls ++ [c]) = ((after calls).call c).2 := by
  simp [after]

theorem mem_firstNames {calls : List (Call γ)} :
    name ∈ firstNames calls ↔ (∃ c ∈ calls, c.name = name) ∧ name ∉ Builtin.names := by
  simp [firstNames, ← Builtin.isBuiltin_iff]

theorem names_after (calls : List (Call γ)) : (after calls).names = firstNames calls := by
  induction calls using List.reverseRecOn with
  | nil => rfl
  | append_singleton calls c ih =>
    rw [after_concat]
    by_cases builtin : c.name ∈ Builtin.names
    · rw [names_call_of_old (.inl builtin), ih]
      simp [firstNames, Builtin.isBuiltin_iff.2 builtin]
    · have foreign : Builtin.isBuiltin c.name = false := by simpa [← Builtin.isBuiltin_iff] using builtin
      by_cases known : ∃ other ∈ calls, other.name = c.name
      · rw [names_call_of_old (.inr (by rw [ih]; exact mem_firstNames.2 ⟨known, builtin⟩)), ih]
        have among : c.name ∈ ((calls.map (·.name)).filter fun name => !Builtin.isBuiltin name).reverse := by
          simpa [foreign] using known
        simp only [firstNames, List.map_append, List.filter_append]
        simp [foreign, List.dedup_cons_of_mem among]
      · rw [names_call_of_new builtin (by rw [ih, mem_firstNames]; exact fun among => known among.1), ih]
        have absent : c.name ∉ ((calls.map (·.name)).filter fun name => !Builtin.isBuiltin name).reverse := by
          simpa [foreign] using known
        simp only [firstNames, List.map_append, List.filter_append]
        simp [foreign, List.dedup_cons_of_notMem absent]

theorem numbered_after (calls : List (Call γ)) : (after calls).Numbered := by
  induction calls using List.reverseRecOn with
  | nil => exact numbered_empty
  | append_singleton calls c ih =>
    rw [after_concat]
    exact ih.call c

theorem firstNames_prefix (earlier later : List (Call γ)) : firstNames earlier <+: firstNames (earlier ++ later) := by
  induction later using List.reverseRecOn with
  | nil => simp
  | append_singleton later c ih =>
    refine ih.trans ?_
    rw [← List.append_assoc, ← names_after, ← names_after, after_concat]
    exact names_prefix_call _ c

theorem placed_earlier {earlier later : List (Call γ)}
    (there : (firstNames (earlier ++ later))[place]? = some name) (among : ∃ c ∈ earlier, c.name = name) :
    (after earlier).names[place]? = some name := by
  have foreign := (mem_firstNames.1 (List.mem_of_getElem? there)).2
  obtain ⟨place', there'⟩ := List.mem_iff_getElem?.1 (mem_firstNames.2 ⟨among, foreign⟩)
  obtain ⟨rest, whole⟩ := firstNames_prefix earlier later
  have within := (List.getElem?_eq_some_iff.1 there').1
  have again : (firstNames (earlier ++ later))[place']? = some name := by
    rw [← whole, List.getElem?_append_left within, there']
  have distinct : (firstNames (earlier ++ later)).Nodup := names_after (earlier ++ later) ▸ (numbered_after _).distinct
  obtain rfl : place = place' :=
    (List.getElem?_inj (List.getElem?_eq_some_iff.1 there).1 distinct).1 (there.trans again.symm)
  rw [names_after, there']

/-- The last of the calls with a name that found another type under it, or none, left its type and its codec there. -/
def Latest (calls : List (Call γ)) (name : Text) (id : Nat) : Prop :=
  ∃ earlier c later, calls = earlier ++ c :: later ∧ c.name = name ∧ (after earlier).Replaces c ∧
    (∀ between again rest, later = between ++ again :: rest → again.name = name →
      ¬ (after (earlier ++ c :: between)).Replaces again) ∧
    (after calls).lookup name = some ⟨c.type, id, c.codec⟩

/-- A call that leaves what is found under a name is no later one to look for. -/
theorem Latest.concat {calls : List (Call γ)} {id : Nat} (latest : Latest calls name id) {c : Call γ}
    (kept : (after (calls ++ [c])).lookup name = (after calls).lookup name)
    (idle : c.name = name → ¬ (after calls).Replaces c) : Latest (calls ++ [c]) name id := by
  obtain ⟨earlier, last, later, rfl, named, replaces, none, found⟩ := latest
  refine ⟨earlier, last, later ++ [c], by simp, named, replaces, ?_, kept.trans found⟩
  intro between again rest split same
  rcases List.eq_nil_or_concat rest with rfl | ⟨rest, end', rfl⟩
  · obtain ⟨rfl, rfl⟩ : later = between ∧ c = again := by simpa using split
    exact idle same
  · have shorter : later = between ++ again :: rest := by
      have whole : later ++ [c] = (between ++ again :: rest) ++ [end'] := by simpa using split
      exact (List.append_inj' whole rfl).1
    exact none between again rest shorter same

theorem latest_after {calls : List (Call γ)} (foreign : name ∉ Builtin.names)
    (among : ∃ c ∈ calls, c.name = name) : ∃ id, Latest calls name id := by
  induction calls using List.reverseRecOn with
  | nil => simp at among
  | append_singleton calls c ih =>
    by_cases same : c.name = name
    · subst same
      rcases call_cases (after calls) c with ⟨id, builtin, -⟩ | ⟨-, stored, known, type, called⟩ | ⟨-, replaces, called⟩
      · exact absurd (List.mem_of_getElem? builtin) foreign
      · have registered : c.name ∈ (after calls).names := by
          by_contra absent
          simp [lookup_eq_none_iff.2 absent] at known
        obtain ⟨id, latest⟩ := ih (mem_firstNames.1 (names_after calls ▸ registered)).1
        exact ⟨id, latest.concat (by rw [after_concat, called]) fun _ replaces => replaces stored known type⟩
      · refine ⟨(after calls).idFor c.name, calls, c, [], by simp, rfl, replaces, by simp, ?_⟩
        rw [after_concat, called, lookup, Keyed.get?_set_self]
    · have before : ∃ c ∈ calls, c.name = name := by
        obtain ⟨other, other_among, named⟩ := among
        rcases List.mem_append.1 other_among with old | last
        · exact ⟨other, old, named⟩
        · exact absurd (List.mem_singleton.1 last ▸ named) same
      obtain ⟨id, latest⟩ := ih before
      refine ⟨id, latest.concat ?_ fun named => absurd named same⟩
      rw [after_concat]
      rcases call_cases (after calls) c with ⟨_, -, called⟩ | ⟨-, _, -, -, called⟩ | ⟨-, -, called⟩
      · rw [called]
      · rw [called]
      · rw [called, lookup, lookup, Keyed.get?_set_of_ne (Ne.symm same)]

/-- After any calls: names are listed in the order in which they first came; a name that is not builtin has its place in
that order as its id, which every call with the name returned and which never changed, and the codec of the last call
that found another type; builtin names keep the ids of the table and are not registered; and names and ids of types
tell one another. -/
theorem registered_for_good (calls : List (Call γ)) :
    (after calls).names = firstNames calls ∧
    (∀ name ∉ Builtin.names, (∃ c ∈ calls, c.name = name) →
      ∃ place, (firstNames calls)[place]? = some name ∧
        (∀ earlier c later, calls = earlier ++ c :: later → c.name = name →
          ((after earlier).call c).1 = firstId + place) ∧
        (∀ earlier later, calls = earlier ++ later → (∃ c ∈ earlier, c.name = name) →
          (after earlier).typeId name = (firstId + place : Nat)) ∧
        Latest calls name (firstId + place)) ∧
    (∀ (place : Nat) name, Builtin.names[place]? = some name →
      (after calls).typeId name = place ∧ (after calls).lookup name = none ∧
        ∀ type codec, (after calls).register name type codec = (place, after calls)) ∧
    (∀ one other, (one ∈ Builtin.names ∨ ∃ c ∈ calls, c.name = one) →
      (other ∈ Builtin.names ∨ ∃ c ∈ calls, c.name = other) →
      (after calls).typeId one = (after calls).typeId other → one = other) ∧
    (∀ name, (name ∈ Builtin.names ∨ ∃ c ∈ calls, c.name = name) →
      (after calls).typeName ((after calls).typeId name) = name) ∧
    (∀ id, (after calls).typeName id ≠ [] → (after calls).typeId ((after calls).typeName id) = id) := by
  have numbered := numbered_after calls
  have known : ∀ name, (name ∈ Builtin.names ∨ ∃ c ∈ calls, c.name = name) →
      (after calls).typeName ((after calls).typeId name) = name := by
    intro name among
    have known : name ∈ Builtin.names ∨ name ∈ (after calls).names := by
      rw [names_after, mem_firstNames]
      tauto
    obtain ⟨id, has⟩ := exists_hasId known
    rw [numbered.typeId_eq has, numbered.typeName_eq has]
  refine ⟨names_after calls, ?_, ?_, ?_, known, fun id named => numbered.typeId_eq (numbered.hasId_typeName named)⟩
  · intro name foreign among
    obtain ⟨place, there⟩ := List.mem_iff_getElem?.1 (mem_firstNames.2 ⟨among, foreign⟩)
    refine ⟨place, there, ?_, ?_, ?_⟩
    · rintro earlier c later rfl rfl
      rw [List.append_cons] at there
      have returned := placed_earlier there ⟨c, by simp, rfl⟩
      rw [after_concat] at returned
      exact (numbered_after earlier).call_fst returned
    · rintro earlier later rfl before
      exact (numbered_after earlier).typeId_eq ⟨place, .inr ⟨placed_earlier there before, rfl⟩⟩
    · obtain ⟨id, latest⟩ := latest_after foreign among
      have ⟨_, c, _, _, _, _, _, found⟩ := latest
      obtain ⟨stored, known, stored_id⟩ := numbered.placed place name (names_after calls ▸ there)
      rw [known] at found
      cases found
      exact stored_id ▸ latest
  · intro place name there
    have builtin := Builtin.typeId?_eq_some_iff.2 there
    refine ⟨by simp [typeId, builtin], lookup_eq_none_iff.2 ?_, fun type codec => by simp [register, builtin]⟩
    exact fun among => numbered.foreign name among (List.mem_of_getElem? there)
  · intro one other one_known other_known same
    rw [← known one one_known, same, known other other_known]
/-- Between calls for "A" of two types, another name and a builtin one are registered; a third call for "A" changes
nothing. -/
theorem registered_for_good_thrice :
    let calls : List (Call Codec) := [⟨"A", .ofUnit "A", .own⟩, ⟨"B", .ofUnit "B", .own⟩, ⟨"int", .integer, .byte⟩,
      ⟨"A", .foreign "A", .usedEnum⟩, ⟨"A", .foreign "A", .byte⟩]
    (after calls).names = ["A", "B"] ∧ (∃ place, Latest calls "A" (firstId + place)) ∧
      (after calls).lookup "A" = some ⟨.foreign "A", 1024, .usedEnum⟩ ∧ (after calls).typeId "B" = 1025 := by
  intro calls
  obtain ⟨names, settled, -, -, -, told⟩ := registered_for_good calls
  obtain ⟨place, -, -, -, latest⟩ := settled "A" (by decide) ⟨⟨"A", .ofUnit "A", .own⟩, by simp [calls], rfl⟩
  exact ⟨names.trans (by decide), ⟨place, latest⟩, by decide, told 1025 (by decide)⟩

end Registry
end Counterpart
