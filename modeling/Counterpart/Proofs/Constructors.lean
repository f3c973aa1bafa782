import Counterpart.Proofs.Calls
import Counterpart.Proofs.Defaults
import Counterpart.Proofs.Filling

/-!
Defaults that are calls of a record. Main statement: such a default is translated argument by argument, each at the
type of its attribute. If there are not too many arguments and each stands for a value, the default is the call with
those values, and else it gives way to the record without values.
-/
namespace Counterpart

variable {gap : Gap} {es : List DefaultExpr} {more : Nat} {es? : Option (List DefaultExpr)} {pair : Parameter × Text}
variable {α β : Type}

theorem mapM_eq_some_iff {f : α → Option β} {xs : List α} {ys : List β} :
    xs.mapM f = some ys ↔ List.Forall₂ (fun x y => f x = some y) xs ys := by
  induction xs generalizing ys with
  | nil => simp [eq_comm]
  | cons x xs ih => cases ys <;> simp [Option.bind_eq_some_iff, ih]

theorem mapM_eq_none_of_mem {f : α → Option β} {xs : List α} {x : α} (among : x ∈ xs)
    (nothing : f x = none) : xs.mapM f = none := by
  induction xs with
  | nil => cases among
  | cons y xs ih =>
    rw [List.mapM_cons]
    rcases List.mem_cons.mp among with rfl | among
    · simp [nothing]
    · simp [ih among]

/-! ## Arguments -/

namespace Text

theorem exists_padding (t : Text) :
    ∃ before after : Text, (∀ c ∈ before, c.isBlank) ∧ (∀ c ∈ after, c.isBlank) ∧ t = before ++ t.strip ++ after := by
  refine ⟨t.takeWhile CodePoint.isBlank, ((t.dropWhile CodePoint.isBlank).reverse.takeWhile CodePoint.isBlank).reverse,
    fun c among => List.mem_takeWhile_imp among, fun c among => ?_, ?_⟩
  · exact List.mem_takeWhile_imp (List.mem_reverse.mp among)
  · rw [strip, trim, List.append_assoc, ← List.reverse_append, List.takeWhile_append_dropWhile, List.reverse_reverse,
      List.takeWhile_append_dropWhile]

theorem strip_strip (t : Text) : t.strip.strip = t.strip := by
  obtain ⟨before, after, blankBefore, blankAfter, padded⟩ := t.exists_padding
  conv_rhs => rw [padded, strip_padded _ blankBefore blankAfter]

variable {mark : CodePoint}

theorem splitAt_append_left {front : Text} (free : mark ∉ front) (t : Text) :
    ∃ piece rest, t.splitAt mark = piece :: rest ∧ (front ++ t).splitAt mark = (front ++ piece) :: rest := by
  induction front with
  | nil =>
    cases t with
    | nil => exact ⟨[], [], rfl, rfl⟩
    | cons c t =>
      rw [List.nil_append, splitAt]
      split
      · exact ⟨_, _, rfl, rfl⟩
      · split <;> exact ⟨_, _, rfl, rfl⟩
  | cons c front ih =>
    obtain ⟨first, later⟩ := not_or.mp (List.mem_cons.not.mp free)
    obtain ⟨piece, rest, split, joined⟩ := ih later
    refine ⟨piece, rest, split, ?_⟩
    rw [List.cons_append, splitAt, joined, if_neg (Ne.symm first)]
    rfl

theorem splitAt_append_right {back : Text} (free : mark ∉ back) (t : Text) :
    ∃ front piece, t.splitAt mark = front ++ [piece] ∧ (t ++ back).splitAt mark = front ++ [piece ++ back] := by
  induction t with
  | nil => exact ⟨[], [], rfl, by simpa using IsIdentifier.splitAt_of_notMem free⟩
  | cons c t ih =>
    obtain ⟨front, piece, split, joined⟩ := ih
    by_cases isMark : c = mark
    · exact ⟨[] :: front, piece, by simp [splitAt, isMark, split], by simp [splitAt, isMark, joined]⟩
    · cases front with
      | nil => exact ⟨[], c :: piece, by simp [splitAt, isMark, split], by simp [splitAt, isMark, joined]⟩
      | cons first front =>
        exact ⟨(c :: first) :: front, piece, by simp [splitAt, isMark, split], by simp [splitAt, isMark, joined]⟩

theorem splitAt_join {texts : List Text} (free : ∀ t ∈ texts, mark ∉ t) (nonempty : texts ≠ []) :
    (join [mark] texts).splitAt mark = texts := by
  induction texts with
  | nil => exact absurd rfl nonempty
  | cons t rest ih =>
    have first := free t List.mem_cons_self
    cases rest with
    | nil => exact IsIdentifier.splitAt_of_notMem first
    | cons u rest =>
      have joined : join [mark] (t :: u :: rest) = t ++ mark :: join [mark] (u :: rest) := by simp [join]
      rw [joined, splitAt_append first, ih (fun t among => free t (List.mem_cons_of_mem _ among)) (by simp)]

end Text

namespace DefaultExpr

theorem arguments_strip (t : Text) : arguments t.strip = arguments t := by
  obtain ⟨before, after, blankBefore, blankAfter, padded⟩ := t.exists_padding
  have noComma {pad : Text} (blank : ∀ c ∈ pad, c.isBlank) : CodePoint.ofChar ',' ∉ pad := fun among =>
    absurd (blank _ among) (by decide)
  conv_rhs => rw [padded, List.append_assoc]
  obtain ⟨piece, rest, split, joined⟩ := Text.splitAt_append_left (noComma blankBefore) (t.strip ++ after)
  obtain ⟨front, last, split', joined'⟩ := Text.splitAt_append_right (noComma blankAfter) t.strip
  have ends : (front ++ [last ++ after]).map Text.strip = (front ++ [last]).map Text.strip := by
    simp only [List.map_append, List.map_cons, Text.strip, Text.trim_append_right _ blankAfter]
  have starts : ((before ++ piece) :: rest).map Text.strip = (piece :: rest).map Text.strip := by
    simp only [List.map_cons, Text.strip, Text.trim_append_left _ blankBefore]
  rw [arguments, arguments, joined, starts, ← split, joined', ends, ← split']

theorem arguments_join {texts : List Text} (free : ∀ t ∈ texts, CodePoint.ofChar ',' ∉ t) (nonempty : texts ≠ [])
    (solid : ∀ t ∈ texts, t.strip ≠ []) : arguments (Text.join "," texts) = texts.map Text.strip := by
  have split : (Text.join "," texts).splitAt (CodePoint.ofChar ',') = texts := Text.splitAt_join free nonempty
  rw [arguments, split, List.filter_eq_self]
  intro t among
  obtain ⟨a, given, rfl⟩ := List.mem_map.mp among
  simpa using solid a given

/-! ## Depth -/

variable {i : Interface} {cls? : Option ClassDecl} {type given : Text}

theorem form_strip : form i cls? type given.strip = form i cls? type given := by
  simp only [form, Text.strip_strip]

theorem literal?_strip (fuel : Nat) : literal? i fuel cls? type given.strip = literal? i fuel cls? type given := by
  cases fuel <;> simp only [literal?, form_strip]

theorem obstacle?_strip (fuel : Nat) : obstacle? i fuel cls? type given.strip = obstacle? i fuel cls? type given := by
  cases fuel <;> simp only [obstacle?, form_strip]

def attributeObstacle? (i : Interface) (fuel : Nat) (pair : Parameter × Text) : Option Gap :=
  if pair.1.type = Text.absent then some .symbol else obstacle? i fuel none pair.1.type pair.2

def attributeLiteral? (i : Interface) (fuel : Nat) (pair : Parameter × Text) : Option DefaultExpr :=
  literal? i fuel none pair.1.type pair.2

/-- The values of attributes are read one after another, up to the first that stands for nothing. -/
def readings (i : Interface) (fuel : Nat) : List (Parameter × Text) → Except Gap (Option (List DefaultExpr))
  | [] => .ok (some [])
  | pair :: pairs =>
    (attributeObstacle? i fuel pair).elim
      ((attributeLiteral? i fuel pair).elim (.ok none) fun e => (readings i fuel pairs).map (·.map (e :: ·))) .error

variable {pairs : List (Parameter × Text)} {fuel limit : Nat}

theorem readings_cons (pair : Parameter × Text) : readings i fuel (pair :: pairs) =
    (attributeObstacle? i fuel pair).elim
      ((attributeLiteral? i fuel pair).elim (.ok none) fun e => (readings i fuel pairs).map (·.map (e :: ·))) .error :=
  rfl

theorem of_readings_ok (isFields : form i cls? type given = .fields pairs) (read : readings i fuel pairs = .ok es?) :
    obstacle? i (fuel + 1) cls? type given = none ∧
      literal? i (fuel + 1) cls? type given = es?.map (.construct (i.hint cls? type)) := by
  rw [obstacle?, literal?, isFields]
  suffices both : _ ∧ (pairs.mapM fun pair => literal? i fuel none pair.1.type pair.2) = es? from
    ⟨both.1, congrArg (Option.map _) both.2⟩
  clear isFields
  induction pairs generalizing es? with
  | nil =>
    cases read
    exact ⟨rfl, rfl⟩
  | cons pair pairs ih =>
    rw [readings_cons, attributeObstacle?, attributeLiteral?] at read
    by_cases absent : pair.1.type = Text.absent
    · simp [absent] at read
    · cases failed : obstacle? i fuel none pair.1.type pair.2 with
      | some gap => simp [absent, failed] at read
      | none =>
        cases found : literal? i fuel none pair.1.type pair.2 with
        | none =>
          simp [absent, failed, found] at read
          simp [absent, failed, found, ← read]
        | some e =>
          simp only [absent, failed, found, if_false, Option.elim_none, Option.elim_some] at read
          obtain ⟨later, rest, rfl⟩ := of_map_ok read
          obtain ⟨noGap, all⟩ := ih rest
          simp [absent, failed, found, noGap, all]
          cases later <;> rfl

theorem of_readings_error (isFields : form i cls? type given = .fields pairs)
    (failed : readings i fuel pairs = .error gap) : obstacle? i (fuel + 1) cls? type given = some gap := by
  rw [obstacle?, isFields]
  clear isFields
  induction pairs with
  | nil => cases failed
  | cons pair pairs ih =>
    rw [readings_cons, attributeObstacle?, attributeLiteral?] at failed
    by_cases absent : pair.1.type = Text.absent
    · simp_all
    · cases first : obstacle? i fuel none pair.1.type pair.2 with
      | some gap => simp_all
      | none =>
        cases found : literal? i fuel none pair.1.type pair.2 with
        | none => simp [absent, first, found] at failed
        | some e =>
          simp only [absent, first, found, if_false, Option.elim_none, Option.elim_some] at failed
          simp [absent, first, found]
          simpa using ih (of_map_error failed)

theorem obstacle?_fields (isFields : form i cls? type given = .fields pairs) :
    obstacle? i (fuel + 1) cls? type given = some gap ↔ readings i fuel pairs = .error gap := by
  cases read : readings i fuel pairs with
  | error other => simp [of_readings_error isFields read, eq_comm]
  | ok es? => simp [(of_readings_ok isFields read).1]

private theorem attribute_of_le
    (ih : obstacle? i fuel none pair.1.type pair.2 = none → obstacle? i more none pair.1.type pair.2 = none ∧
      literal? i more none pair.1.type pair.2 = literal? i fuel none pair.1.type pair.2)
    (clear : attributeObstacle? i fuel pair = none) :
    attributeObstacle? i more pair = none ∧ attributeLiteral? i more pair = attributeLiteral? i fuel pair := by
  unfold attributeObstacle? at clear ⊢
  split at clear
  next => cases clear
  next present => rw [if_neg present]; exact ih clear

theorem literal?_of_le (le : fuel ≤ more) (clear : obstacle? i fuel cls? type given = none) :
    obstacle? i more cls? type given = none ∧ literal? i more cls? type given = literal? i fuel cls? type given := by
  induction fuel generalizing cls? type given more with
  | zero => cases clear
  | succ fuel ih =>
    obtain ⟨more, rfl⟩ : ∃ n, more = n + 1 := ⟨more - 1, by omega⟩
    have le : fuel ≤ more := by omega
    cases isForm : form i cls? type given with
    | plain value? =>
      have same : obstacle? i (more + 1) cls? type given = obstacle? i (fuel + 1) cls? type given := by
        rw [obstacle?, obstacle?, isForm]
        cases value? with
        | none => rfl
        | some e => cases e <;> rfl
      exact ⟨same.trans clear, by rw [literal?, literal?, isForm]⟩
    | wrapped inner =>
      simp only [obstacle?, literal?, isForm] at clear ⊢
      exact ih le clear
    | fields pairs =>
      have same : ∀ es?, readings i fuel pairs = .ok es? → readings i more pairs = .ok es? := by
        intro es? read
        clear isForm clear
        induction pairs generalizing es? with
        | nil => exact read
        | cons pair pairs ihPairs =>
          rw [readings_cons] at read ⊢
          cases failed : attributeObstacle? i fuel pair with
          | some gap => simp [failed] at read
          | none =>
            obtain ⟨noGap, kept⟩ := attribute_of_le (fun clear => ih le clear) failed
            rw [failed, Option.elim_none] at read
            rw [noGap, Option.elim_none, kept]
            cases found : attributeLiteral? i fuel pair with
            | none => simpa [found] using read
            | some e =>
              rw [found, Option.elim_some] at read
              obtain ⟨later, rest, rfl⟩ := of_map_ok read
              rw [Option.elim_some, ihPairs later rest, ok_map]
      cases read : readings i fuel pairs with
      | error gap =>
        rw [of_readings_error isForm read] at clear
        cases clear
      | ok es? =>
        obtain ⟨noGap, all⟩ := of_readings_ok isForm (same es? read)
        exact ⟨noGap, all.trans (of_readings_ok isForm read).2.symm⟩

/-! ## All arguments -/

theorem attributeLiteral?_eq (read : attributeObstacle? i limit pair = none) :
    attributeLiteral? i limit pair = i.literal? none pair.1.type pair.2 (limit + 1) := by
  unfold attributeObstacle? at read
  split at read
  next => cases read
  next => exact (literal?_of_le (Nat.le_succ limit) read).2.symm

theorem readings_error_iff : readings i limit pairs = .error gap ↔
    ∃ before pair after, pairs = before ++ pair :: after ∧
      (∀ q ∈ before, attributeObstacle? i limit q = none ∧ (i.literal? none q.1.type q.2 (limit + 1)).isSome) ∧
      attributeObstacle? i limit pair = some gap := by
  induction pairs with
  | nil => simp [readings]
  | cons pair pairs ih =>
    rw [readings_cons]
    constructor
    · intro failed
      cases first : attributeObstacle? i limit pair with
      | some other =>
        rw [first] at failed
        cases failed
        exact ⟨[], pair, pairs, rfl, by simp, first⟩
      | none =>
        cases found : attributeLiteral? i limit pair with
        | none => simp [first, found] at failed
        | some e =>
          rw [first, found] at failed
          obtain ⟨before, other, after, rfl, read, failed⟩ := ih.mp (of_map_error failed)
          refine ⟨pair :: before, other, after, rfl, List.forall_mem_cons.mpr ⟨⟨first, ?_⟩, read⟩, failed⟩
          rw [← attributeLiteral?_eq first, found, Option.isSome_some]
    · rintro ⟨before, other, after, split, read, failed⟩
      cases before with
      | nil =>
        obtain ⟨rfl, rfl⟩ := List.cons.inj split
        rw [failed]
        rfl
      | cons q before =>
        obtain ⟨rfl, rfl⟩ := List.cons.inj split
        obtain ⟨⟨first, found⟩, read⟩ := List.forall_mem_cons.mp read
        obtain ⟨e, found⟩ := Option.isSome_iff_exists.mp found
        rw [← attributeLiteral?_eq first] at found
        rw [first, found, Option.elim_none, Option.elim_some, ih.mpr ⟨before, other, after, rfl, read, failed⟩]
        rfl

theorem mapM_literal? (read : readings i limit pairs = .ok es?) :
    (pairs.mapM fun q => i.literal? none q.1.type q.2 (limit + 1)) = es? := by
  induction pairs generalizing es? with
  | nil =>
    cases read
    rfl
  | cons pair pairs ih =>
    rw [readings_cons] at read
    cases first : attributeObstacle? i limit pair with
    | some gap => simp [first] at read
    | none =>
      have same := attributeLiteral?_eq first
      rw [List.mapM_cons]
      cases found : attributeLiteral? i limit pair with
      | none =>
        rw [first, found] at read
        cases read
        rw [← same, found]
        rfl
      | some e =>
        rw [first, found] at read
        obtain ⟨later, rest, rfl⟩ := of_map_ok read
        rw [← same, found, ih rest]
        cases later <;> rfl

theorem readings_strip (attributes : List Parameter) (texts : List Text) :
    readings i fuel (attributes.zip (texts.map Text.strip)) = readings i fuel (attributes.zip texts) := by
  induction attributes generalizing texts with
  | nil => rfl
  | cons a attributes ih =>
    cases texts with
    | nil => rfl
    | cons t texts =>
      simp only [List.map_cons, List.zip_cons_cons, readings_cons, ih, attributeObstacle?, attributeLiteral?,
        obstacle?_strip, literal?_strip]

theorem mapM_strip (attributes : List Parameter) (texts : List Text) :
    ((attributes.zip (texts.map Text.strip)).mapM fun q => i.literal? none q.1.type q.2 (limit + 1)) =
      (attributes.zip texts).mapM fun q => i.literal? none q.1.type q.2 (limit + 1) := by
  rw [List.zip_map_right, List.mapM_map]
  exact congrArg (List.mapM · _) (funext fun q => literal?_strip (limit + 1))

theorem literal?_fields (isFields : form i cls? type given = .fields pairs)
    (clear : obstacle? i (limit + 1) cls? type given = none) :
    literal? i (limit + 1) cls? type given =
      (pairs.mapM fun q => i.literal? none q.1.type q.2 (limit + 1)).map (.construct (i.hint cls? type)) := by
  cases read : readings i limit pairs with
  | error gap =>
    rw [of_readings_error isFields read] at clear
    cases clear
  | ok es? => rw [(of_readings_ok isFields read).2, mapM_literal? read]

end DefaultExpr

/-! ## The name of a record -/

namespace Interface

variable {i : Interface} {r : RecordDecl}

theorem WellFormed.record?_eq (wellFormed : i.WellFormed) (declared : r ∈ i.records) : i.record? r.name = some r := by
  have distinct : (i.records.map (·.name)).Nodup := (List.nodup_append.mp (List.nodup_append.mp wellFormed.names).1).2.1
  have found : (i.record? r.name).isSome := List.find?_isSome.mpr ⟨r, declared, decide_eq_true rfl⟩
  obtain ⟨other, found⟩ := Option.isSome_iff_exists.mp found
  have named : other.name = r.name := by simpa using List.find?_some found
  rw [found, List.inj_on_of_nodup_map distinct (List.mem_of_find?_eq_some found) declared named]

theorem WellFormed.enum?_record (wellFormed : i.WellFormed) (classNames : ∀ c ∈ i.classes, c.name ≠ [])
    (declared : r ∈ i.records) (isName : r.name.IsIdentifier) : i.enum? none r.name = none := by
  have noScope : i.classEnum? [] r.name = none := by
    rw [← Option.not_isSome_iff_eq_none, isSome_classEnum?_iff]
    rintro ⟨c, among, unnamed, -⟩
    exact classNames c among unnamed
  have noGlobal : i.enums.find? (·.name = r.name) = none := by
    refine List.find?_eq_none.mpr fun e among => ?_
    have apart := (List.nodup_append.mp wellFormed.names).2.2 r.name
      (List.mem_append_right _ (List.mem_map_of_mem declared)) e.name (List.mem_map_of_mem among)
    simpa using apart.symm
  simp [enum?, splitScope_of_isIdentifier isName, noScope, noGlobal]

theorem hint_record (noEnum : i.enum? none r.name = none) (isName : r.name.IsIdentifier)
    (custom : ¬ Builtin.isBuiltin r.name) (undeclared : r.name ∉ i.usedEnums)
    (plain : r.name ∉ (["Any", "str", "bytes"] : List Text)) : i.hint none r.name = .named r.name := by
  have noScope : i.classEnum? [] r.name = none := by
    rw [enum?, splitScope_of_isIdentifier isName] at noEnum
    cases inScope : i.classEnum? [] r.name with
    | none => rfl
    | some e => simp [inScope] at noEnum
  have qualified : i.qualify none r.name = r.name := by
    simp [qualify, splitScope_of_isIdentifier isName, noScope]
  have noEncoding : Builtin.encoding? r.name = none := by simpa [Builtin.isBuiltin] using custom
  have free : r.name ∉ (["bool", "int", "float", "str", "bytes", "Any"] : List Text) := by
    intro listed
    simp only [List.mem_cons, List.not_mem_nil, or_false, not_or] at listed plain
    rcases listed with same | same | same | same | same | same
    · exact custom (same ▸ by decide)
    · exact custom (same ▸ by decide)
    · exact custom (same ▸ by decide)
    · exact plain.2.1 same
    · exact plain.2.2 same
    · exact plain.1 same
  simp [hint, noEncoding, undeclared, isName.isSymbol, qualified, isName.dotted_eq,
    Hint.ofSymbol_of_isIdentifier isName free]

end Interface

/-! ## Values of arguments -/

namespace DefaultExpr

variable {m : Module}

theorem texts_eq_map (es : List DefaultExpr) : texts es = es.map text := by
  induction es with
  | nil => rfl
  | cons e rest ih => rw [texts, ih, List.map_cons]

theorem given_cons (e : DefaultExpr) (rest : List DefaultExpr) : given m (e :: rest) =
    piece m e >>= fun p => given m rest >>= fun later =>
      if p.isOpen then .error .unreadable else .ok (p.items ++ later) := by
  cases e with
  | quoted source =>
    rw [given, piece]
    cases Piece.ofSource source with
    | error _ => rfl
    | ok p =>
      cases given m rest with
      | error _ => rfl
      | ok later => cases isOpen : p.isOpen <;> simp only [ok_bind, isOpen] <;> rfl
  | _ =>
    simp only [given, piece]
    cases value m _ with
    | error _ => rfl
    | ok v => cases given m rest <;> rfl

/-- Arguments have the values that they come to where they stand, if no remark hides what follows one of them. -/
theorem given_ok_iff {vs : List Value} : given m es = .ok vs ↔
    ∃ ps, List.Forall₂ (fun e p => piece m e = .ok p ∧ p.isOpen = false) es ps ∧ vs = ps.flatMap Piece.items := by
  induction es generalizing vs with
  | nil => exact ⟨fun done => ⟨[], .nil, (Except.ok.inj done).symm⟩, fun ⟨_, .nil, same⟩ => same ▸ rfl⟩
  | cons e rest ih =>
    rw [given_cons]
    constructor
    · intro done
      obtain ⟨p, isPiece, done⟩ := of_bind_ok done
      obtain ⟨later, restDone, done⟩ := of_bind_ok done
      obtain ⟨ps, pieces, rfl⟩ := ih.mp restDone
      cases isOpen : p.isOpen with
      | true => simp [isOpen] at done
      | false =>
        simp only [isOpen, Bool.false_eq_true, if_false] at done
        cases done
        exact ⟨p :: ps, .cons ⟨isPiece, isOpen⟩ pieces, rfl⟩
    · rintro ⟨ps, pieces, rfl⟩
      obtain _ | ⟨⟨isPiece, isClosed⟩, pieces⟩ := pieces
      rw [isPiece, ok_bind, ih.mpr ⟨_, pieces, rfl⟩, ok_bind, isClosed]
      rfl

theorem value_construct {r : RecordDecl} {name : Text} (defined : m.definition? name = some (.record r)) {v : Value} :
    value m (.construct (.named name) es) = .ok v ↔
      ∃ vs, given m es = .ok vs ∧ m.record name r vs = .ok v := by
  have cls : classOf m (.named name) = .ok (.record name r) := by
    simp [classOf, Module.expected, Module.classNamed, defined]
  rw [value, cls, ok_bind]
  constructor
  · intro done
    exact of_bind_ok done
  · rintro ⟨vs, evaluated, made⟩
    rw [evaluated, ok_bind]
    exact made

end DefaultExpr

/-! ## Calls of records -/

namespace Interface

open DefaultExpr

variable {i : Interface} {r : RecordDecl}

theorem form_constructor (known : i.record? r.name = some r) (isName : r.name.IsIdentifier)
    (custom : ¬ Builtin.isBuiltin r.name) {texts : List Text} (nonempty : texts ≠ [])
    (free : ∀ t ∈ texts, CodePoint.ofChar ',' ∉ t) (solid : ∀ t ∈ texts, t.strip ≠ []) :
    form i none r.name (callText r.name (Text.join "," texts)) =
      if r.attributes.length < texts.length then .plain none
      else .fields (r.attributes.zip (texts.map Text.strip)) := by
  have args : arguments (Text.join "," texts).strip = texts.map Text.strip := by
    rw [arguments_strip, arguments_join free nonempty solid]
  have inner : (Text.join "," texts).strip ≠ [] := by
    intro blank
    rw [blank] at args
    exact nonempty (List.map_eq_nil_iff.mp args.symm)
  rw [form_callText i none r.name isName.1 (strip_callText isName.1),
    if_pos (Text.afterLast_of_isNamePart isName.1).symm, callForm]
  simp [inner, custom, known, args]

section Translation

variable (noEnum : i.enum? none r.name = none) (undeclared : r.name ∉ i.usedEnums)
variable (named : i.hint none r.name = .named r.name) {given : Text} (trimmed : given.strip = given) (limit : Nat)

include noEnum undeclared trimmed

private theorem obstacle?_record :
    i.obstacle? none r.name given (limit + 1) = DefaultExpr.obstacle? i (limit + 1) none r.name given := by
  rw [obstacle?_of_no_enum noEnum undeclared, trimmed]

include named

private theorem default_record (nonempty : given ≠ []) : i.default none r.name given (limit + 1) =
    (DefaultExpr.literal? i (limit + 1) none r.name given).elim
      (.construct (.named r.name) [], some ⟨given, r.name, r.name ++ "()"⟩) fun e => (e, none) := by
  have written : (DefaultExpr.empty (.named r.name)).text = r.name ++ "()" := by
    simp [DefaultExpr.empty, DefaultExpr.text, Hint.spelling, texts, Text.join, Text.ofString]
  rw [default_of_no_enum noEnum undeclared (trimmed.symm ▸ nonempty), trimmed, named, written]
  rfl

end Translation

def sketch : Interface where
  records := [{ name := "Dot", attributes := [⟨"int", "x"⟩, ⟨"int", "y"⟩] },
    { name := "Line", attributes := [⟨"Dot", "from"⟩, ⟨"quint8", "width"⟩, ⟨"QString", "label"⟩] }]

end Interface
end Counterpart
