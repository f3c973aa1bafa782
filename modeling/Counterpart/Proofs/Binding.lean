import Counterpart.Module.Plain
import Counterpart.Proofs.Acceptance
import Counterpart.Proofs.Registering
import Counterpart.Proofs.Requirements

/-!
The types that a class can be bound to. A descriptor looks for the members of its class under their declared names; a
source has its functions under names that keep clear of reserved words, and one that is bound later takes the name of
one that was bound before. The main statement says when binding a type that derives from the simple source succeeds.
-/
namespace Counterpart

variable {c : ClassDecl} {mark : CodePoint} {layer : Layer} {l : Lineage} {types : List Text} {s : NumberedSignal}
variable {r : Registration} {scope : Scope} {name type t a b separator rest : Text}

/-! ## Entries by key -/

namespace Keyed

theorem nodup_keys_foldl {κ α β : Type} {step : List (κ × α) → β → List (κ × α)} {xs : List β}
    {entries : List (κ × α)} (distinct : (keys entries).Nodup)
    (keeps : ∀ sofar x, (keys sofar).Nodup → (keys (step sofar x)).Nodup) : (keys (xs.foldl step entries)).Nodup :=
  List.foldlRecOn xs step distinct fun sofar kept x _ => keeps sofar x kept

variable {κ α : Type} [DecidableEq κ]

theorem get?_append (key : κ) (entries others : List (κ × α)) :
    get? key (entries ++ others) = (get? key entries).or (get? key others) := by
  induction entries with
  | nil => rfl
  | cons entry rest ih =>
    rw [List.cons_append, get?, get?]
    split
    next => rfl
    next => exact ih

theorem isSome_get?_iff {key : κ} {entries : List (κ × α)} : (get? key entries).isSome ↔ key ∈ keys entries := by
  rw [← Option.ne_none_iff_isSome, Ne, get?_eq_none_iff, not_not]

theorem nodup_keys_set {key : κ} {value : α} {entries : List (κ × α)} (distinct : (keys entries).Nodup) :
    (keys (set key value entries)).Nodup := by
  rw [keys_set]
  split
  next => exact distinct
  next new => exact distinct.append (List.nodup_singleton key) (by simpa using new)

private theorem get?_foldl_set (value : κ → α) (names : List κ) (entries : List (κ × α)) {key : κ} {v : α} :
    get? key (names.foldl (fun entries name => set name (value name) entries) entries) = some v ↔
      key ∈ names ∧ value key = v ∨ key ∉ names ∧ get? key entries = some v := by
  induction names generalizing entries with
  | nil => simp
  | cons name rest ih =>
    rw [List.foldl_cons, ih]
    by_cases same : key = name
    · subst same
      by_cases later : key ∈ rest <;> simp [later, get?_set_self]
    · simp [same, get?_set_of_ne same]

private theorem get?_foldl_setNew (p : κ → Bool) (value : κ → α) (names : List κ) (entries : List (κ × α)) {key : κ}
    {v : α} :
    get? key (names.foldl (fun entries name =>
        if (get? name entries).isNone && p name then set name (value name) entries else entries) entries) = some v ↔
      get? key entries = some v ∨ get? key entries = none ∧ key ∈ names ∧ p key ∧ value key = v := by
  induction names generalizing entries with
  | nil => simp
  | cons name rest ih =>
    rw [List.foldl_cons, ih]
    by_cases same : key = name
    · subst same
      cases found : get? key entries <;> by_cases kept : p key <;> simp [found, kept, get?_set_self]
    · have unchanged :
          get? key (if (get? name entries).isNone && p name then set name (value name) entries else entries) =
            get? key entries := by
        split
        next => exact get?_set_of_ne same _ _
        next => rfl
      rw [unchanged]
      simp [same]

theorem nodup_keys_ofList (entries : List (κ × α)) : (keys (ofList entries)).Nodup :=
  nodup_keys_foldl List.nodup_nil fun _ _ => nodup_keys_set

theorem mem_values_iff {entries : List (κ × α)} (distinct : (keys entries).Nodup) {v : α} :
    v ∈ entries.map (·.2) ↔ ∃ key, get? key entries = some v := by
  constructor
  · intro among
    obtain ⟨⟨key, _⟩, bound, rfl⟩ := List.mem_map.mp among
    exact ⟨key, get?_of_mem distinct bound⟩
  · rintro ⟨key, found⟩
    exact List.mem_map_of_mem (mem_of_get? found)

end Keyed

/-! ## Identifiers -/

namespace Text

theorem isBare_append_iff : IsBare (a ++ b) ↔ a.IsBare ∧ b.IsBare := List.forall_mem_append

theorem isBare_join {pieces : List Text} (between : separator.IsBare)
    (bare : ∀ piece ∈ pieces, IsBare piece) : (join separator pieces).IsBare := by
  fun_induction join separator pieces with
  | case1 => simp [IsBare]
  | case2 piece => exact bare piece (by simp)
  | case3 piece rest _ ih =>
    rw [isBare_append_iff, isBare_append_iff]
    exact ⟨⟨bare piece (by simp), between⟩, ih fun piece among => bare piece (by simp [among])⟩

theorem isBare_of_builtin : ∀ name ∈ Builtin.names, IsBare name := by decide

theorem isWord_of_isNamePart (named : t.isNamePart) : ∀ c ∈ t, c.isWord := by
  cases t with
  | nil => cases named
  | cons first rest =>
    simp only [isNamePart, Bool.and_eq_true, List.all_eq_true] at named
    refine List.forall_mem_cons.mpr ⟨?_, named.2⟩
    rcases Bool.or_eq_true_iff.mp named.1 with letter | underscore
    · have ascii : first.val < 128 := by
        simp only [CodePoint.isAsciiLetter, Bool.or_eq_true, Bool.and_eq_true, decide_eq_true_eq] at letter
        omega
      simp [CodePoint.isWord, ascii, letter]
    · rw [eq_of_beq underscore]
      decide

/-- A letter or an underscore, then letters, numerals and underscores. -/
def IsIdentifier (t : Text) : Prop := t.isNamePart ∧ t.isScalar

instance (t : Text) : Decidable t.IsIdentifier := inferInstanceAs (Decidable (_ ∧ _))

theorem isIdentifier_of_isAsciiName (named : t.isAsciiName) : t.IsIdentifier := by
  cases t with
  | nil => cases named
  | cons c rest =>
    simp only [isAsciiName, Bool.and_eq_true, List.all_eq_true, decide_eq_true_eq] at named
    obtain ⟨letter, ascii⟩ := named
    have first : c.val < 128 := by
      simp only [CodePoint.isAsciiLetter, Bool.or_eq_true, Bool.and_eq_true, decide_eq_true_eq] at letter
      omega
    have scalar {d : CodePoint} (small : d.val < 128) : (!d.isSurrogate && d ≠ CodePoint.absent) = true := by
      have there : d ≠ CodePoint.absent := by
        rintro rfl
        exact absurd small (by decide)
      have one : ¬ d.isSurrogate := by
        simp only [CodePoint.isSurrogate, Bool.and_eq_true, decide_eq_true_eq]
        omega
      simp [there, one]
    refine ⟨?_, ?_⟩
    · simp only [isNamePart, letter, Bool.true_or, Bool.true_and, List.all_eq_true]
      exact fun d among => (ascii d among).2
    · refine List.all_eq_true.mpr (List.forall_mem_cons.mpr ⟨scalar first, fun d among => scalar (ascii d among).1⟩)

theorem isBare_of_isPlainText (plain : t.isPlainText) : t.IsBare := by
  intro c among
  have each := List.all_eq_true.mp plain c among
  simp only [Bool.and_eq_true, decide_eq_true_eq, bne_iff_ne] at each
  obtain ⟨⟨⟨least, greatest⟩, noQuote⟩, noSlash⟩ := each
  refine ⟨noQuote, noSlash, ?_, ?_, ?_⟩ <;>
  · rintro rfl
    revert least greatest
    decide

namespace IsIdentifier

theorem isWord (isName : t.IsIdentifier) : ∀ c ∈ t, c.isWord := isWord_of_isNamePart isName.1

theorem isBare (isName : t.IsIdentifier) : t.IsBare := by
  intro c among
  have word := isName.isWord c among
  have there : c ≠ CodePoint.absent := by simpa using (Bool.and_eq_true_iff.mp (List.all_eq_true.mp isName.2 c among)).2
  refine ⟨?_, ?_, ?_, ?_, there⟩ <;>
  · rintro rfl
    exact absurd word (by decide)

theorem append (first : a.IsIdentifier) (later : b.IsIdentifier) : (a ++ "_" ++ b).IsIdentifier := by
  constructor
  · cases a with
    | nil => cases first.1
    | cons c rest =>
      have named := first.1
      simp only [isNamePart, Bool.and_eq_true, List.cons_append, List.append_assoc, List.all_append] at named ⊢
      exact ⟨named.1, named.2, by decide, List.all_eq_true.mpr later.isWord⟩
  · simp only [isScalar, List.all_append, Bool.and_eq_true]
    exact ⟨⟨first.2, by decide⟩, later.2⟩

theorem dotted_eq (isName : t.IsIdentifier) : t.dotted = t := by
  have words := isName.isWord
  clear isName
  fun_induction dotted t with
  | case1 => rfl
  | case2 => rfl
  | case3 c d rest isScope _ =>
    simp only [Bool.and_eq_true, decide_eq_true_eq] at isScope
    exact absurd (words c (by simp)) (by rw [isScope.1]; decide)
  | case4 c d rest _ ih => rw [ih fun x among => words x (List.mem_cons_of_mem _ among)]

theorem splitAt_of_notMem (free : mark ∉ t) : t.splitAt mark = [t] := by
  induction t with
  | nil => rfl
  | cons c rest ih =>
    obtain ⟨other, later⟩ := not_or.mp (List.mem_cons.not.mp free)
    simp [splitAt, ih later, Ne.symm other]

theorem isSymbol (isName : t.IsIdentifier) : t.isSymbol := by
  have free : CodePoint.ofChar '.' ∉ t := fun among => absurd (isName.isWord _ among) (by decide)
  simp [Text.isSymbol, isName.dotted_eq, splitAt_of_notMem free, isName.1]

end IsIdentifier

theorem splitAt_append (free : mark ∉ a) : (a ++ mark :: t).splitAt mark = a :: t.splitAt mark := by
  induction a with
  | nil => simp [splitAt]
  | cons c a ih =>
    obtain ⟨first, later⟩ := not_or.mp (List.mem_cons.not.mp free)
    simp [splitAt, ih later, Ne.symm first]

theorem eq_of_after? {start : Text} (found : after? start t = some rest) : t = start ++ rest := by
  fun_induction after? start t with
  | case1 => exact Option.some.inj found
  | case2 => cases found
  | case3 _ _ _ ih => rw [ih found, List.cons_append]
  | case4 => cases found

theorem eq_of_cutLast? {before : Text} (found : cutLast? separator t = some (before, rest)) :
    t = before ++ separator ++ rest := by
  induction t generalizing before with
  | nil => cases found
  | cons c t ih =>
    rw [cutLast?] at found
    split at found
    next cut =>
      cases found
      rw [ih cut]
      rfl
    next =>
      obtain ⟨_, after, same⟩ := Option.map_eq_some_iff.mp found
      cases same
      exact eq_of_after? after

end Text

theorem Interface.splitScope_of_isIdentifier (isName : name.IsIdentifier) : splitScope name = ([], name) := by
  unfold splitScope
  cases cut : Text.cutLast? "::" name with
  | none => rfl
  | some parts =>
    have colon : CodePoint.ofChar ':' ∈ name := by
      rw [Text.eq_of_cutLast? cut]
      simp [show ("::" : Text) = [CodePoint.ofChar ':', CodePoint.ofChar ':'] from rfl]
    exact absurd (isName.isWord _ colon) (by decide)

namespace Interface

/-- What a unit declares has identifiers for names; enums that are declared elsewhere may have other names. -/
structure Named (i : Interface) : Prop where
  declared : ∀ name ∈ i.declaredNames, name.IsIdentifier
  members : ∀ c ∈ i.classes, ∀ name ∈ c.memberNames ++ c.enumNames, name.IsIdentifier
  used : ∀ name ∈ i.usedEnums, Text.IsBare name

/-- The names of a sound module are of that kind. -/
theorem named_of_isSound {m : Module} (sound : m.isSound) : m.interface.Named := by
  obtain ⟨titles, enums, -, classes, used, -⟩ := Module.isSound_iff.mp sound
  simp only [isSoundClass, isSoundSlot, EnumDecl.isSound, Bool.and_eq_true, List.all_eq_true] at classes enums
  refine ⟨fun name declared => ?_, fun c declared name among => ?_, fun name listed => ?_⟩
  · apply Text.isIdentifier_of_isAsciiName
    simp only [declaredNames, List.mem_append, List.mem_map] at declared
    rcases declared with (⟨c, isMember, rfl⟩ | ⟨r, isMember, rfl⟩) | ⟨e, isMember, rfl⟩
    · exact (Module.soundSides sound isMember).name
    · have isTitle : r.name ∈ m.definitions.map (·.1) := by
        simp only [Module.definitions, List.map_append, List.mem_append, List.mem_map]
        exact .inl (.inr ⟨_, ⟨r, isMember, rfl⟩, rfl⟩)
      have isFree := titles r.name isTitle
      simp only [Text.isFree, Bool.and_eq_true] at isFree
      exact isFree.1.1.1.1
    · exact (enums e isMember).1.1
  · apply Text.isIdentifier_of_isAsciiName
    obtain ⟨⟨⟨⟨⟨⟨-, ofEnums⟩, ofProperties⟩, ofSignals⟩, ofSlots⟩, -⟩, -⟩ := classes c declared
    simp only [ClassDecl.memberNames, ClassDecl.enumNames, List.mem_append, List.mem_map] at among
    rcases among with ((⟨p, isMember, rfl⟩ | ⟨s, isMember, rfl⟩) | ⟨s, isMember, rfl⟩) | ⟨e, isMember, rfl⟩
    · exact (ofProperties p isMember).1
    · exact (ofSignals s isMember).1
    · exact (ofSlots s isMember).1.1
    · exact (ofEnums e isMember).1.1.1.1.1
  · exact Text.isBare_of_isPlainText (used name listed)

def emittedNames (i : Interface) : List Text := i.emittedEnums.map (·.1) ++ i.records.map (·.name)

/-! ## Types -/

variable {i : Interface}

theorem isSome_classEnum?_iff {scope : Text} :
    (i.classEnum? scope name).isSome ↔ ∃ c ∈ i.classes, c.name = scope ∧ c.hasEnum name := by
  simp [classEnum?, ClassDecl.hasEnum, and_assoc]

theorem qualify_mem_emittedEnums (declared : c ∈ i.classes) (isEnum : c.hasEnum name) :
    i.qualify (some c) name ∈ i.emittedEnums.map (·.1) := by
  obtain ⟨e, among, same⟩ := List.any_eq_true.mp isEnum
  obtain rfl : e.name = name := by simpa using same
  refine List.mem_map.mpr ⟨(i.qualify (some c) e.name, e.plan), ?_, rfl⟩
  exact List.mem_append_right _ (List.mem_flatMap.mpr ⟨c, declared, List.mem_map.mpr ⟨e, among, rfl⟩⟩)

theorem Named.isIdentifier_class (named : i.Named) (declared : c ∈ i.classes) : c.name.IsIdentifier :=
  named.declared c.name (by simp [declaredNames]; exact .inl ⟨c, declared, rfl⟩)

theorem Named.isIdentifier_enum (named : i.Named) (declared : c ∈ i.classes)
    (isEnum : c.hasEnum name) : name.IsIdentifier := by
  obtain ⟨e, among, same⟩ := List.any_eq_true.mp isEnum
  refine named.members c declared name (List.mem_append_right _ (List.mem_map.mpr ⟨e, among, ?_⟩))
  simpa using same

theorem Named.qualify_enum (named : i.Named) (declared : c ∈ i.classes)
    (isEnum : c.hasEnum name) : i.qualify (some c) name = c.name ++ "_" ++ name := by
  have isName := named.isIdentifier_enum declared isEnum
  have unscoped : ¬ (i.classEnum? [] name).isSome := by
    rw [isSome_classEnum?_iff]
    rintro ⟨other, among, empty, -⟩
    have isName := named.isIdentifier_class among
    rw [empty] at isName
    cases isName.1
  simp [qualify, splitScope_of_isIdentifier isName, unscoped, isEnum, Text.concat,
    Text.shown_of_isBare isName.isBare, Text.shown_of_isBare (named.isIdentifier_class declared).isBare]

theorem Named.mem_emittedNames (named : i.Named) (declared : c ∈ i.classes)
    (isEnum : c.hasEnum name) : c.name ++ "_" ++ name ∈ i.emittedNames := by
  rw [← named.qualify_enum declared isEnum]
  exact List.mem_append_left _ (qualify_mem_emittedEnums declared isEnum)

/-- Where a type names an enum of a class, it becomes the emitted name of that enum; otherwise it stays. -/
theorem Named.qualify_cases (named : i.Named) (declared : c ∈ i.classes) (type : Text) :
    i.qualify (some c) type ∈ i.emittedNames ∨
      (i.classEnum? (splitScope type).1 (splitScope type).2 = none ∧ ¬ c.hasEnum type ∧
        i.qualify (some c) type = type) := by
  cases meant : i.classEnum? (splitScope type).1 (splitScope type).2 with
  | some e =>
    obtain ⟨other, among, isScope, isEnum⟩ := isSome_classEnum?_iff.mp (Option.isSome_iff_exists.mpr ⟨e, meant⟩)
    have emitted := named.mem_emittedNames among isEnum
    rw [isScope] at emitted
    exact .inl (by simpa [qualify, meant, Text.concat] using emitted)
  | none =>
    by_cases isEnum : c.hasEnum type
    · exact .inl (named.qualify_enum declared isEnum ▸ named.mem_emittedNames declared isEnum)
    · exact .inr ⟨rfl, isEnum, by simp [qualify, meant, isEnum]⟩

theorem isIdentifier_of_emitted (named : i.Named) (emitted : name ∈ i.emittedNames) : name.IsIdentifier := by
  rcases List.mem_append.mp emitted with isEnum | isRecord
  · obtain ⟨entry, among, rfl⟩ := List.mem_map.mp isEnum
    rcases List.mem_append.mp among with isGlobal | isOwn
    · obtain ⟨e, declared, rfl⟩ := List.mem_map.mp isGlobal
      exact named.declared e.name (List.mem_append_right _ (List.mem_map_of_mem declared))
    · obtain ⟨c, declared, isOwn⟩ := List.mem_flatMap.mp isOwn
      obtain ⟨e, isMember, rfl⟩ := List.mem_map.mp isOwn
      have isEnum : c.hasEnum e.name := List.any_eq_true.mpr ⟨e, isMember, by simp⟩
      rw [named.qualify_enum declared isEnum]
      exact (named.isIdentifier_class declared).append (named.isIdentifier_enum declared isEnum)
  · exact named.declared name (List.mem_append_left _ (List.mem_append_right _ isRecord))

theorem qualify_of_known (named : i.Named) (distinct : (i.classes.map (·.name)).Nodup)
    (declared : c ∈ i.classes) (known : i.isKnownType (some c) type) (custom : ¬ Builtin.isBuiltin type) :
    i.qualify (some c) type ∈ i.usedEnums ∨ i.qualify (some c) type ∈ i.emittedNames := by
  rcases named.qualify_cases declared type with emitted | ⟨unscoped, noEnum, same⟩
  · exact .inr emitted
  · rw [same]
    -- the class of that name is this one, so the type names no enum of a class
    have noneHere : i.classEnum? c.name type = none := by
      rw [← Option.not_isSome_iff_eq_none, isSome_classEnum?_iff]
      rintro ⟨other, among, sameName, isEnum⟩
      exact noEnum (List.inj_on_of_nodup_map distinct among declared sameName ▸ isEnum)
    simp only [isKnownType, custom, enum?, unscoped, Option.bind_some, noneHere, record?, Bool.or_eq_true,
      List.contains_iff_mem, List.find?_isSome, decide_eq_true_eq] at known
    rcases known with ((isBuiltin | used) | ⟨e, isEnum, rfl⟩) | ⟨r, isRecord, rfl⟩
    · cases isBuiltin
    · exact .inl used
    · refine .inr (List.mem_append_left _ (List.mem_map.mpr ⟨(e.name, e.plan), ?_, rfl⟩))
      exact List.mem_append_left _ (List.mem_map.mpr ⟨e, isEnum, rfl⟩)
    · exact .inr (List.mem_append_right _ (List.mem_map_of_mem isRecord))

theorem isBare_of_known (named : i.Named) (known : i.isKnownType (some c) type) : type.IsBare := by
  have global {name : Text} (isGlobal : name ∈ i.declaredNames) : name.IsBare := (named.declared name isGlobal).isBare
  simp only [isKnownType, Bool.or_eq_true, List.contains_iff_mem, Builtin.isBuiltin_iff] at known
  rcases known with ((isBuiltin | used) | isEnum) | isRecord
  · exact Text.isBare_of_builtin type isBuiltin
  · exact named.used type used
  · cases meant : i.classEnum? (splitScope type).1 (splitScope type).2 with
    | some e =>
      obtain ⟨other, among, isScope, isMember⟩ := isSome_classEnum?_iff.mp (Option.isSome_iff_exists.mpr ⟨e, meant⟩)
      have scope := (named.isIdentifier_class among).isBare
      have name := (named.isIdentifier_enum among isMember).isBare
      rw [isScope] at scope
      unfold splitScope at scope name
      cases cut : Text.cutLast? "::" type with
      | none => simpa [cut] using name
      | some parts =>
        rw [Text.eq_of_cutLast? cut, Text.isBare_append_iff, Text.isBare_append_iff]
        simp only [cut, Option.getD_some] at scope name
        exact ⟨⟨scope, by decide⟩, name⟩
    | none =>
      cases own : i.classEnum? c.name type with
      | some e =>
        obtain ⟨other, among, -, isMember⟩ := isSome_classEnum?_iff.mp (Option.isSome_iff_exists.mpr ⟨e, own⟩)
        exact (named.isIdentifier_enum among isMember).isBare
      | none =>
        simp only [enum?, meant, Option.bind_some, own, List.find?_isSome, decide_eq_true_eq] at isEnum
        obtain ⟨e, among, rfl⟩ := isEnum
        exact global (List.mem_append_right _ (List.mem_map_of_mem among))
  · simp only [record?, List.find?_isSome, decide_eq_true_eq] at isRecord
    obtain ⟨r, among, rfl⟩ := isRecord
    exact global (List.mem_append_left _ (List.mem_append_right _ (List.mem_map_of_mem among)))

/-! ## Registered types -/

theorem mem_metatypes_iff : name ∈ i.metatypes (fun c t => i.qualify (some c) t) ↔ name ∈ i.records.map (·.name) ∨
      ∃ c ∈ i.classes, ∃ type ∈ c.mentions, ¬ Builtin.isBuiltin type ∧ i.qualify (some c) type = name := by
  simp [metatypes, and_assoc]

theorem mem_registrations : r ∈ i.registrations ↔ ∃ name,
      name ∈ i.usedEnums ∧ ⟨name, "int", some name.identifier⟩ = r ∨
      name ∉ i.usedEnums ∧ (name ∈ i.emittedEnums.map (·.1) ∧ ⟨name, name, none⟩ = r ∨
        name ∉ i.emittedEnums.map (·.1) ∧ name ∈ i.metatypes (fun c t => i.qualify (some c) t) ∧ name.isSymbol ∧
          ⟨name, name.dotted, none⟩ = r) := by
  rw [registrations, Keyed.mem_values_iff]
  · refine exists_congr fun name => ?_
    rw [Keyed.get?_foldl_set, Keyed.get?_foldl_setNew Text.isSymbol]
    generalize mapped : (i.emittedEnums.map _ : List (Text × Registration)) = entries
    have names : i.emittedEnums.map (·.1) = Keyed.keys entries := by
      rw [← mapped]
      simp [Keyed.keys, Function.comp_def]
    have values : ∀ entry ∈ entries, entry.2 = ⟨entry.1, entry.1, none⟩ := by
      rw [← mapped, List.forall_mem_map]
      exact fun _ _ => rfl
    rw [names]
    cases found : Keyed.get? name (Keyed.ofList entries) with
    | none =>
      rw [Keyed.get?_ofList, Keyed.get?_eq_none_iff] at found
      have other : name ∉ Keyed.keys entries := by simpa [Keyed.keys] using found
      simp [other]
    | some registered =>
      rw [Keyed.get?_ofList] at found
      have among := List.mem_reverse.mp (Keyed.mem_of_get? found)
      have isEnum : name ∈ Keyed.keys entries := List.mem_map.mpr ⟨_, among, rfl⟩
      have same : registered = ⟨name, name, none⟩ := values _ among
      simp [isEnum, same]
  · refine Keyed.nodup_keys_foldl (Keyed.nodup_keys_foldl (Keyed.nodup_keys_ofList _) fun _ _ distinct => ?_)
      fun _ _ => Keyed.nodup_keys_set
    split
    next => exact Keyed.nodup_keys_set distinct
    next => exact distinct

theorem Named.mem_registrations (named : i.Named) (emitted : name ∈ i.emittedNames)
    (notUsed : name ∉ i.usedEnums) : ⟨name, name, none⟩ ∈ i.registrations := by
  refine Interface.mem_registrations.mpr ⟨name, .inr ⟨notUsed, ?_⟩⟩
  have isName := isIdentifier_of_emitted named emitted
  by_cases isEnum : name ∈ i.emittedEnums.map (·.1)
  · exact .inl ⟨isEnum, rfl⟩
  · have isRecord := (List.mem_append.mp emitted).resolve_left isEnum
    exact .inr ⟨isEnum, mem_metatypes_iff.mpr (.inl isRecord), isName.isSymbol, by rw [isName.dotted_eq]⟩

/-- An enum that is declared elsewhere is registered as such, and what is emitted under its own name. -/
theorem mem_registrations_iff {m : Module} (sound : m.isSound) (distinct : (m.interface.classes.map (·.name)).Nodup) :
    r ∈ m.interface.registrations ↔ (∃ name ∈ m.interface.usedEnums, ⟨name, "int", some name.identifier⟩ = r) ∨
      ∃ name ∈ m.interface.emittedNames, name ∉ m.interface.usedEnums ∧ ⟨name, name, none⟩ = r := by
  have named := named_of_isSound sound
  constructor
  · intro among
    obtain ⟨name, ⟨used, rfl⟩ | ⟨notUsed, ⟨isEnum, rfl⟩ | ⟨-, mentioned, symbol, rfl⟩⟩⟩ := mem_registrations.mp among
    · exact .inl ⟨name, used, rfl⟩
    · exact .inr ⟨name, List.mem_append_left _ isEnum, notUsed, rfl⟩
    · have emitted : name ∈ m.interface.emittedNames := by
        rcases mem_metatypes_iff.mp mentioned with isRecord | ⟨c, declared, type, isMention, custom, rfl⟩
        · exact List.mem_append_right _ isRecord
        · rcases Bool.or_eq_true_iff.mp ((Module.soundSides sound declared).types _ isMention) with known | written
          · exact (qualify_of_known named distinct declared known custom).resolve_left notUsed
          · -- what only can be written down is no symbol, so that nothing is registered for it
            rcases named.qualify_cases declared type with emitted | ⟨-, -, same⟩
            · exact emitted
            · rw [same] at symbol
              simp [symbol] at written
      rw [(isIdentifier_of_emitted named emitted).dotted_eq]
      exact .inr ⟨name, emitted, notUsed, rfl⟩
  · rintro (⟨name, used, rfl⟩ | ⟨name, emitted, notUsed, rfl⟩)
    · exact mem_registrations.mpr ⟨name, .inl ⟨used, rfl⟩⟩
    · exact named.mem_registrations emitted notUsed

end Interface

/-! ## Classes by name -/

namespace Scope

theorem find?_append (scope later : Scope) (name : Text) :
    (scope ++ later).find? name = (later.find? name).or (scope.find? name) := by
  simp only [find?, List.filter_append, List.getLast?_append, Option.map_or]

theorem isSome_find?_iff : (scope.find? name).isSome ↔ name ∈ scope.map (·.1) := by
  simp [find?]

end Scope

def Module.sideNames (m : Module) : List Text := (m.interface.classes.flatMap m.mode.definitions).map (·.1)

namespace Module

variable {m : Module}

private theorem definitions_eq (m : Module) :
    ∃ emitted : Scope, m.definitions = emitted ++ m.interface.classes.flatMap m.mode.definitions ∧
      emitted.map (·.1) = m.interface.emittedNames ∧
      ∀ entry ∈ emitted, (∃ plan, entry.2 = .enum plan) ∨ ∃ decl, entry.2 = .record decl := by
  refine ⟨_, rfl, by simp [Interface.emittedNames, Function.comp_def], fun entry among => ?_⟩
  rcases List.mem_append.mp among with isEnum | isRecord
  · obtain ⟨e, -, rfl⟩ := List.mem_map.mp isEnum
    exact .inl ⟨e.2, rfl⟩
  · obtain ⟨r, -, rfl⟩ := List.mem_map.mp isRecord
    exact .inr ⟨r, rfl⟩

private theorem isSide {entry : Text × Definition} (among : entry ∈ m.mode.definitions c) :
    entry = (c.replicaName, .replica c) ∨ entry = (c.sourceName, .source c) ∨
      entry = (c.simpleSourceName, .simpleSource c) ∨ entry = (c.descriptorName, .descriptor c) := by
  unfold Mode.definitions at among
  rcases List.mem_append.mp among with isReplica | isSource
  · split at isReplica <;> simp_all
  · split at isSource <;> simp_all

/-- An enum or a record can be registered unless its name is that of a side. -/
theorem isOk_registered_iff (emitted : name ∈ m.interface.emittedNames) :
    (m.registered ⟨name, name, none⟩).isOk ↔ name ∉ m.sideNames := by
  obtain ⟨others, defined, named, kinds⟩ := m.definitions_eq
  have found : m.definition? name =
      (Scope.find? (m.interface.classes.flatMap m.mode.definitions) name).or (others.find? name) := by
    rw [definition?, defined, Scope.find?_append]
  rw [sideNames, ← Scope.isSome_find?_iff, registered, found]
  cases side : Scope.find? (m.interface.classes.flatMap m.mode.definitions) name with
  | some d =>
    obtain ⟨c, -, among⟩ := List.mem_flatMap.mp (Scope.mem_of_find? side)
    have refused : ∀ e, Except.isOk (Except.error e : Except Fault (ClassRef × Codec)) = false := fun _ => rfl
    rcases isSide among with same | same | same | same <;> cases same <;> simp [refused]
  | none =>
    have isOther : (others.find? name).isSome := Scope.isSome_find?_iff.mpr (named ▸ emitted)
    obtain ⟨d, isOther⟩ := Option.isSome_iff_exists.mp isOther
    rw [isOther]
    rcases kinds _ (Scope.mem_of_find? isOther) with ⟨plan, rfl⟩ | ⟨decl, rfl⟩ <;> exact ⟨by simp, fun _ => rfl⟩

theorem isOk_registerEach_iff {rs : List Registration} {registry : Registry} :
    (m.registerEach rs registry).1.isOk ↔ ∀ r ∈ rs, (m.registered r).isOk := by
  induction rs generalizing registry with
  | nil => exact ⟨by simp, fun _ => rfl⟩
  | cons r rest ih =>
    rw [registerEach, List.forall_mem_cons]
    split
    next done =>
      rw [ih, done]
      exact (and_iff_right rfl).symm
    next failed =>
      rw [failed]
      exact ⟨fun done => (nomatch done), fun done => (nomatch done.1)⟩

/-- The types of a unit can be registered unless an enum or a record has the name of a side; an enum that is declared
elsewhere may take its place. -/
theorem isOk_register_iff (sound : m.isSound)
    (distinct : (m.interface.classes.map (·.name)).Nodup) (registry : Registry) :
    (m.register registry).1.isOk ↔
      ∀ name ∈ m.interface.emittedNames, name ∈ m.sideNames → name ∈ m.interface.usedEnums := by
  rw [register, isOk_registerEach_iff]
  simp only [Interface.mem_registrations_iff sound distinct]
  constructor
  · intro registers name emitted isSide
    by_contra notUsed
    exact (isOk_registered_iff emitted).mp (registers _ (.inr ⟨name, emitted, notUsed, rfl⟩)) isSide
  · rintro free r (⟨name, -, rfl⟩ | ⟨name, emitted, notUsed, rfl⟩)
    · rfl
    · exact (isOk_registered_iff emitted).mpr fun isSide => notUsed (free name emitted isSide)

theorem definition?_descriptor (sources : m.mode.hasSource) (distinct : (m.interface.classes.map (·.name)).Nodup)
    (declared : c ∈ m.interface.classes) :
    m.definition? c.descriptorName = some (.descriptor c) := by
  have named : c.descriptorName ∈ (m.interface.classes.flatMap m.mode.definitions).map (·.1) :=
    List.mem_map.mpr ⟨(c.descriptorName, .descriptor c),
      List.mem_flatMap.mpr ⟨c, declared, by simp [Mode.definitions, sources]⟩, rfl⟩
  obtain ⟨d, found⟩ := Option.isSome_iff_exists.mp (Scope.isSome_find?_iff.mpr named)
  obtain ⟨others, defined, -⟩ := m.definitions_eq
  rw [definition?, defined, Scope.find?_append, found, Option.some_or]
  obtain ⟨other, among, isOther⟩ := List.mem_flatMap.mp (Scope.mem_of_find? found)
  -- the names of the other sides end in other letters
  have ends (name : Text) {side : Text} {c : CodePoint} (ends : side.getLast? = some c) :
      (name ++ side).getLast? = some c := by
    rw [List.getLast?_append, ends, Option.some_or]
  have own : c.descriptorName.getLast? = some 'I' := ends c.name rfl
  have replica : other.replicaName.getLast? = some 'a' := ends other.name rfl
  have source : other.sourceName.getLast? = some 'e' := ends other.name rfl
  have simpleSource : other.simpleSourceName.getLast? = some 'e' := ends other.name rfl
  rcases isSide isOther with same | same | same | same <;> obtain ⟨sameName, rfl⟩ := Prod.mk.inj same <;>
    rw [sameName] at own
  · exact absurd (own.symm.trans replica) (by decide)
  · exact absurd (own.symm.trans source) (by decide)
  · exact absurd (own.symm.trans simpleSource) (by decide)
  · rw [List.inj_on_of_nodup_map distinct among declared (List.append_cancel_right sameName).symm]

end Module

/-! ## Members of types -/

private theorem mem_foldl_addName {names start : List Text} :
    name ∈ names.foldl addName start ↔ name ∈ start ∨ name ∈ names := by
  induction names generalizing start with
  | nil => simp
  | cons first rest ih =>
    have added : name ∈ addName start first ↔ name ∈ start ∨ name = first := by
      unfold addName
      split
      next there =>
        have there : first ∈ start := List.contains_iff_mem.mp there
        exact ⟨.inl, fun among => among.elim id fun same => same ▸ there⟩
      next => simp
    rw [List.foldl_cons, ih, added, List.mem_cons, or_assoc]

theorem Lineage.mem_gather {names : Layer → List Text} : name ∈ l.gather names ↔ ∃ layer ∈ l, name ∈ names layer := by
  simp [gather, mem_foldl_addName]

theorem Lineage.isSome_member? (among : layer ∈ l)
    (bound : name ∈ Keyed.keys layer.members) : (l.member? name).isSome := by
  simp only [member?, lookup?, Option.isSome_map, List.findSome?_isSome_iff]
  exact ⟨layer, among, Keyed.isSome_get?_iff.mpr bound⟩

theorem Layer.mem_methods {m : Method} (isPublic : isPublic name)
    (bound : Keyed.get? name layer.members = some (.method m)) : name ∈ layer.methods :=
  List.mem_map.mpr ⟨_, List.mem_filter.mpr ⟨Keyed.mem_of_get? bound, by simpa [Member.isMethod]⟩, rfl⟩

theorem Layer.mem_signals (bound : Keyed.get? name layer.members = some (.signal types)) : name ∈ layer.signals :=
  List.mem_map.mpr ⟨_, List.mem_filter.mpr ⟨Keyed.mem_of_get? bound, rfl⟩, rfl⟩

theorem ClassDecl.WellFormed.isPublic (wellFormed : c.WellFormed)
    (isMember : name ∈ c.memberNames) : Layer.isPublic name := by
  rw [Layer.isPublic, Bool.not_eq_true', ← Bool.not_eq_true, Draft.startsWith_iff]
  exact fun hidden => wellFormed.free name isMember (.inr (.inr hidden))

def ClassDecl.sourceFunctions (c : ClassDecl) : List Text :=
  c.properties.map (·.name.unreserved) ++ c.setterNames ++ c.slots.map (·.name.unreserved)

/-- The members of a class are found in a type where its source does not have them under their declared names. -/
structure ClassDecl.FoundIn (c : ClassDecl) (l : Lineage) : Prop where
  slots : ∀ s ∈ c.slots, s.name ∈ reservedWords → ∃ layer ∈ l, s.name ∈ layer.methods
  signals : ∀ name ∈ c.changeNames ++ c.signalNames, name ∈ c.sourceFunctions → ∃ layer ∈ l, name ∈ layer.signals
  setters : ∀ name ∈ c.setterNames, ∀ member, l.member? name = some member → member.isCallable

namespace Interface

variable (i : Interface) (c : ClassDecl)

theorem sourceBindings_eq : i.sourceBindings c =
    i.aliasBindings c ++ i.signalBindings c ++ c.sourceFunctions.map fun name => (name, .method .declared) := by
  simp [sourceBindings, ClassDecl.sourceFunctions, ClassDecl.setterNames, Function.comp_def]

theorem get?_sourceLayer_function (isFunction : name ∈ c.sourceFunctions) :
    Keyed.get? name (i.sourceLayer c).members = some (.method .declared) := by
  rw [sourceLayer, Keyed.get?_ofList, sourceBindings_eq, List.reverse_append, Keyed.get?_append]
  cases found : Keyed.get? name (c.sourceFunctions.map fun name => (name, Member.method .declared)).reverse with
  | none =>
    rw [Keyed.get?_eq_none_iff] at found
    exact absurd (by simpa [Keyed.keys, Function.comp_def] using isFunction) found
  | some member =>
    obtain ⟨_, -, same⟩ := List.mem_map.mp (List.mem_reverse.mp (Keyed.mem_of_get? found))
    cases same
    rfl

theorem get?_sourceLayer_signal (isSignal : name ∈ c.changeNames ++ c.signalNames) (free : name ∉ c.sourceFunctions) :
    ∃ types, Keyed.get? name (i.sourceLayer c).members = some (.signal types) := by
  have none : Keyed.get? name (c.sourceFunctions.map fun name => (name, Member.method .declared)).reverse = none := by
    rw [Keyed.get?_eq_none_iff]
    simpa [Keyed.keys, Function.comp_def] using free
  have named : (Keyed.get? name (i.signalBindings c).reverse).isSome := by
    rw [← map_name_signals] at isSignal
    simpa [Keyed.isSome_get?_iff, Keyed.keys, signalBindings] using isSignal
  obtain ⟨member, found⟩ := Option.isSome_iff_exists.mp named
  obtain ⟨s, -, same⟩ := List.mem_map.mp (List.mem_reverse.mp (Keyed.mem_of_get? found))
  cases same
  refine ⟨i.signalTypes c s, ?_⟩
  rw [sourceLayer, Keyed.get?_ofList, sourceBindings_eq, List.reverse_append, Keyed.get?_append, none, Option.none_or,
    List.reverse_append, Keyed.get?_append, found, Option.some_or]

/-- A type that derives from a simple source has something under the names of the setters. -/
theorem isSome_member?_setter {c : ClassDecl} (simple : simpleSourceLayer c ∈ l)
    (isSetter : name ∈ c.setterNames) : (l.member? name).isSome := by
  obtain ⟨p, writable, rfl⟩ := List.mem_map.mp isSetter
  refine Lineage.isSome_member? simple ?_
  rw [← Keyed.isSome_get?_iff, simpleSourceLayer, Keyed.get?_ofList, Keyed.isSome_get?_iff]
  simp only [Keyed.keys, simpleSourceBindings, List.map_reverse, List.map_append, List.map_map, List.mem_reverse]
  exact List.mem_append_right _ (List.mem_map.mpr ⟨p, writable, rfl⟩)

end Interface

/-! ## Descriptors -/

theorem mem_mentions {op : Operation} (declared : op ∈ c.signals ++ c.slots)
    (among : type ∈ op.returnType :: op.paramTypes) : type ∈ c.mentions :=
  List.mem_append_right _ (List.mem_flatMap.mpr ⟨op, declared, among⟩)

theorem mem_mentions_of_signal (numbered : s ∈ c.ordinals.signals) (among : type ∈ s.paramTypes) :
    type ∈ c.mentions := by
  obtain ⟨⟨⟨name, params, property?⟩, place⟩, isHead, rfl⟩ := List.mem_map.mp numbered
  rcases List.mem_append.mp (List.fst_mem_of_mem_zipIdx isHead) with change | own
  · obtain ⟨_, -, same⟩ := List.mem_map.mp change
    cases same
    simp [NumberedSignal.paramTypes] at among
  · obtain ⟨op, declared, same⟩ := List.mem_map.mp own
    cases same
    exact mem_mentions (List.mem_append_left _ declared) (List.mem_cons_of_mem _ among)

private theorem isBare_signature (named : name.IsBare)
    (bare : ∀ type ∈ types, Text.IsBare type) : (name ++ "(" ++ Text.join "," types ++ ")").IsBare := by
  simp only [Text.isBare_append_iff]
  exact ⟨⟨⟨named, by decide⟩, Text.isBare_join (by decide) bare⟩, by decide⟩

/-! ## Main statement -/

namespace Interface

variable {i : Interface}

section

variable {m : Module} (sound : m.isSound) (declared : c ∈ m.interface.classes)

include sound declared

theorem isBare_type (mentioned : type ∈ c.mentions) :
    type.IsBare ∧ (m.interface.qualify (some c) type).IsBare := by
  have named := named_of_isSound sound
  have bare : type.IsBare := by
    rcases Bool.or_eq_true_iff.mp ((Module.soundSides sound declared).types _ mentioned) with known | written
    · exact isBare_of_known named known
    · exact Text.isBare_of_isPlainText (Bool.and_eq_true_iff.mp written).2
  refine ⟨bare, ?_⟩
  rcases named.qualify_cases declared type with emitted | ⟨-, -, same⟩
  · exact (isIdentifier_of_emitted named emitted).isBare
  · rwa [same]

theorem isBare_signal (numbered : s ∈ c.ordinals.signals) :
    s.signature.IsBare ∧ ∀ t ∈ s.paramTypes, (m.interface.qualify (some c) t).IsBare := by
  have types (t : Text) (among : t ∈ s.paramTypes) := isBare_type sound declared (mem_mentions_of_signal numbered among)
  have member {name : Text} (among : name ∈ c.memberNames) : name.IsBare :=
    ((named_of_isSound sound).members c declared name (List.mem_append_left _ among)).isBare
  have name : s.name.IsBare := by
    have among := List.mem_map_of_mem (f := (·.name)) numbered
    rw [map_name_signals] at among
    rcases List.mem_append.mp among with change | own
    · obtain ⟨p, notifies, same⟩ := List.mem_map.mp change
      rw [← same, Property.changeName, Text.isBare_append_iff]
      refine ⟨member ?_, by decide⟩
      simp only [ClassDecl.memberNames, List.mem_append, List.mem_map]
      exact .inl (.inl ⟨p, (List.mem_filter.mp notifies).1, rfl⟩)
    · exact member (List.mem_append_left _ (List.mem_append_right _ own))
  exact ⟨isBare_signature name fun t among => (types t among).1, fun t among => (types t among).2⟩

theorem isBare_slot {s : Operation} (isSlot : s ∈ c.slots) :
    s.signature.IsBare ∧ s.returnType.IsBare ∧ ∀ t ∈ s.paramTypes, (m.interface.qualify (some c) t).IsBare := by
  have types (t : Text) (among : t ∈ s.returnType :: s.paramTypes) :=
    isBare_type sound declared (mem_mentions (List.mem_append_right _ isSlot) among)
  have isMember : s.name ∈ c.memberNames := List.mem_append_right _ (List.mem_map_of_mem isSlot)
  have name := ((named_of_isSound sound).members c declared s.name (List.mem_append_left _ isMember)).isBare
  exact ⟨isBare_signature name fun t among => (types t (List.mem_cons_of_mem _ among)).1,
    (types _ List.mem_cons_self).1, fun t among => (types t (List.mem_cons_of_mem _ among)).2⟩

/-- The texts that a sound module writes between quotes can be read. -/
theorem reads_of_isSound : m.interface.Reads c := by
  have read {t : Text} (bare : t.IsBare) : t.reread.isOk := by rw [Text.reread_of_isBare bare]; rfl
  constructor
  · intro s numbered
    obtain ⟨signature, types⟩ := isBare_signal sound declared numbered
    exact ⟨read signature, fun t among => read (types t among)⟩
  · intro n numbered
    have isSlot : n.slot ∈ c.slots := map_slot_ordinals c ▸ List.mem_map_of_mem numbered
    obtain ⟨signature, returns, types⟩ := isBare_slot sound declared isSlot
    exact ⟨read signature, read returns, fun t among => read (types t among)⟩

end

/-- A type that derives from the simple source of a class has what is required exactly if the members are found that the
source does not have under their declared names. -/
theorem meets_iff_foundIn (wellFormed : c.WellFormed) (derived : (i.simpleSourceLineage c).Sublist l) :
    (∀ r ∈ c.required, l.Meets r) ↔ c.FoundIn l := by
  have simple : simpleSourceLayer c ∈ l := derived.subset (by simp [simpleSourceLineage])
  have source : i.sourceLayer c ∈ l := derived.subset (by simp [simpleSourceLineage, sourceLineage])
  simp only [ClassDecl.forall_required, Lineage.Meets, Lineage.metaObject, Lineage.mem_gather]
  constructor
  · rintro ⟨-, setters, signals, slots⟩
    refine ⟨fun s isSlot _ => slots s isSlot, fun name isSignal _ => signals name isSignal, ?_⟩
    intro name isSetter member found
    simpa [found] using setters name isSetter
  · intro found
    refine ⟨fun p isProperty => ⟨_, source, List.mem_map_of_mem isProperty⟩, fun name isSetter => ?_,
      fun name isSignal => ?_, fun s isSlot => ?_⟩
    · obtain ⟨member, isMember⟩ := Option.isSome_iff_exists.mp (isSome_member?_setter simple isSetter)
      simpa [isMember] using found.setters name isSetter member isMember
    · by_cases isFunction : name ∈ c.sourceFunctions
      · exact found.signals name isSignal isFunction
      · obtain ⟨_, bound⟩ := i.get?_sourceLayer_signal c isSignal isFunction
        exact ⟨_, source, Layer.mem_signals bound⟩
    · by_cases isReserved : s.name ∈ reservedWords
      · exact found.slots s isSlot isReserved
      · have kept : s.name.unreserved = s.name := by simp [Text.unreserved, isReserved]
        have bound := i.get?_sourceLayer_function c
          (List.mem_append_right _ (List.mem_map_of_mem (f := (·.name.unreserved)) isSlot))
        rw [kept] at bound
        have isMember : s.name ∈ c.memberNames := List.mem_append_right _ (List.mem_map_of_mem isSlot)
        exact ⟨_, source, Layer.mem_methods (wellFormed.isPublic isMember) bound⟩

/-- A class of a sound module is bound to a type that derives from its simple source exactly if the members are found
that the source does not have under their declared names. -/
theorem isOk_bind_iff_foundIn {m : Module} (wellFormed : m.interface.WellFormed) (sound : m.isSound)
    (declared : c ∈ m.interface.classes) (derived : (m.interface.simpleSourceLineage c).Sublist l) (registry : Registry) :
    (Descriptor.bind m.interface registry c l).isOk ↔ c.FoundIn l :=
  (Descriptor.isOk_bind_iff (reads_of_isSound sound declared)).trans
    (meets_iff_foundIn (wellFormed.classes c declared) derived)

end Interface

namespace Session

/-- Where a class of a sound module is bound to a type that derives from its simple source, this succeeds exactly if no
enum and no record has the name of a side, unless an enum declared elsewhere takes its place, and the members are found
that the source does not have under their declared names. -/
theorem bind_derived_iff {w : World} {c : ClassDecl} {id : Text} {type : BoundType} {l : Lineage}
    (accepted : (Draft.ofInterface w.module.interface).check = .ok ()) (sound : w.module.isSound)
    (sources : w.module.mode.hasSource) (declared : c ∈ w.module.interface.classes)
    (given : (boundLineage c.name type).outcome w = (.ok l, w))
    (derived : (w.module.interface.simpleSourceLineage c).Sublist l) :
    ((bind id c.name type).outcome w).1.isOk ↔
      (∀ name ∈ w.module.interface.emittedNames, name ∈ w.module.sideNames → name ∈ w.module.interface.usedEnums) ∧
        c.FoundIn l := by
  have wellFormed := Draft.wellFormed_of_check accepted
  have distinct : (w.module.interface.classes.map (·.name)).Nodup := wellFormed.names.of_append_left.of_append_left
  have found : (Act.lineage (c.name ++ "SourceAPI")).outcome w =
      (.ok (.descriptor c, w.module.interface.descriptorLineage c), w) := by
    have defined : w.module.definition? (c.name ++ "SourceAPI") = some (.descriptor c) :=
      Module.definition?_descriptor sources distinct declared
    simp [Act.lineage, Act.module, Module.lineage, defined, Module.lineageOf?]
  rw [← Module.isOk_register_iff sound distinct w.registry]
  simp only [bind, Act.registerTypes, Act.module, Act.outcome_bind, given, found, Act.outcome_get, Act.outcome_set,
    Act.outcome_of, Act.outcome_pure]
  cases w.module.register w.registry with
  | mk result registry =>
    cases result with
    | error e => exact ⟨fun done => (nomatch done), fun done => (nomatch done.1)⟩
    | ok _ =>
      rw [← Interface.isOk_bind_iff_foundIn wellFormed sound declared derived registry]
      dsimp only
      cases Descriptor.bind w.module.interface registry c l with
      | error e => exact ⟨fun done => (nomatch done), fun done => (nomatch done.2)⟩
      | ok d => exact ⟨fun _ => ⟨rfl, rfl⟩, fun _ => rfl⟩

def turnstile : ClassDecl where
  name := "Turnstile"
  properties := [{ type := "Mode", name := "mode" }]
  slots := [{ name := "pass", params := [⟨"Mode", "mode"⟩] }]
  enums := [{ name := "Mode", enumerators := [⟨"Shut", .number 0⟩] }]

def door : ClassDecl where
  name := "Door"
  signals := [{ name := "rung" }]
  slots := [{ name := "open", params := [⟨"Turnstile::Mode", "mode"⟩] }]

def entrance : Module where
  interface := { classes := [turnstile, door] }

theorem bind_derived_iff_entrance :
    ¬ ((bind "d" turnstile.name (.implemented none)).outcome { module := entrance }).1.isOk ∧
      ((bind "d" door.name (.implemented none)).outcome { module := entrance }).1.isOk := by
  have accepted : (Draft.ofInterface entrance.interface).check = .ok () := rfl
  have sound : entrance.isSound := by decide +kernel
  let w : World := { module := entrance }
  let type (c : ClassDecl) : Lineage :=
    (entrance.interface.simpleSourceLineage c).implement (defaultSlots entrance c.name)
  have binds (c : ClassDecl) (declared : c ∈ entrance.interface.classes)
      (given : (boundLineage c.name (.implemented none)).outcome w = (.ok (type c), w)) :
      ((bind "d" c.name (.implemented none)).outcome w).1.isOk ↔ _ :=
    bind_derived_iff accepted sound rfl declared given (List.sublist_cons_self _ _)
  constructor
  · rw [binds turnstile (by simp [entrance]) rfl]
    rintro ⟨-, found⟩
    exact absurd (found.slots _ List.mem_cons_self (by decide)) (by decide +kernel)
  · rw [binds door (by simp [entrance]) rfl]
    refine ⟨by decide +kernel, ?_, ?_, ?_⟩
    · decide +kernel
    · decide +kernel
    · intro name among
      cases among

end Session

end Counterpart
