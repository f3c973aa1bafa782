import Counterpart.Proofs.Binding
import Mathlib.Data.List.TakeWhile

/-!
Calls among the defaults. A default that is a name with something in parentheses is read as a call, whatever stands in
the parentheses, and is nothing else: no word, no number and no quotation.
-/
namespace Counterpart

variable {c : CodePoint} {name pad : Text}

/-! ## Blanks around a text -/

namespace Text

variable {isEdge : CodePoint → Bool}

theorem trim_append_right (t : Text) (blank : ∀ c ∈ pad, isEdge c) : trim isEdge (t ++ pad) = trim isEdge t := by
  have blankReversed : ∀ c ∈ pad.reverse, isEdge c := fun c among => blank c (List.mem_reverse.mp among)
  unfold trim
  rw [List.dropWhile_append]
  split
  next empty =>
    rw [List.dropWhile_eq_nil_iff.mpr blank, List.isEmpty_iff.mp empty]
  next => rw [List.reverse_append, List.dropWhile_append_of_pos blankReversed]

theorem trim_append_left (t : Text) (blank : ∀ c ∈ pad, isEdge c) : trim isEdge (pad ++ t) = trim isEdge t := by
  unfold trim
  rw [List.dropWhile_append_of_pos blank]

theorem strip_padded (t : Text) {before after : Text} (blankBefore : ∀ c ∈ before, c.isBlank)
    (blankAfter : ∀ c ∈ after, c.isBlank) : (before ++ t ++ after).strip = t.strip := by
  rw [strip, trim_append_right _ blankAfter, trim_append_left _ blankBefore, strip]

theorem strip_of_ends {t : Text} (first : ∀ c ∈ t.head?, c.isBlank = false)
    (last : ∀ c ∈ t.getLast?, c.isBlank = false) :
    t.strip = t := by
  have keeps : ∀ {u : Text}, (∀ c ∈ u.head?, c.isBlank = false) → u.dropWhile CodePoint.isBlank = u := by
    intro u solid
    cases u with
    | nil => rfl
    | cons c rest => rw [List.dropWhile_cons, solid c rfl, if_neg (by simp)]
  rw [strip, trim, keeps first, keeps (by simpa using last), List.reverse_reverse]

end Text

/-! ## Names -/

namespace CodePoint

/-- What a name starts with starts nothing but a name. -/
theorem of_starts_name (starts : c.isAsciiLetter || c == ofChar '_') :
    c.isBlank = false ∧ c.isDigit = false ∧ c ∉ [ofChar '-', ofChar '+', ofChar '0', ofChar '.', ofChar '"'] := by
  have bounds : c.val < 128 ∧ 65 ≤ c.val := by
    simp only [isAsciiLetter, Bool.or_eq_true, Bool.and_eq_true, decide_eq_true_eq, beq_iff_eq] at starts
    rcases starts with starts | rfl
    · omega
    · decide
  obtain ⟨ascii, large⟩ := bounds
  refine ⟨?_, ?_, fun among => ?_⟩
  · simp [isBlank, isWideBlank, blankRanges]
    omega
  · rw [isDigit, digitValue?, if_pos ascii, if_neg (by simp [isAsciiDigit]; omega), Option.isSome_none]
  · have small : [ofChar '-', ofChar '+', ofChar '0', ofChar '.', ofChar '"'].all (·.val < 65) := by decide
    have below : c.val < 65 := by simpa using List.all_eq_true.mp small c among
    omega

end CodePoint

theorem Text.afterLast_of_isNamePart (isName : name.isNamePart) : afterLast "::" name = name := by
  unfold afterLast
  cases cut : cutLast? "::" name with
  | none => rfl
  | some parts =>
    have colon : CodePoint.ofChar ':' ∈ name := by
      rw [eq_of_cutLast? cut]
      simp [show ("::" : Text) = [CodePoint.ofChar ':', CodePoint.ofChar ':'] from rfl]
    exact absurd (isWord_of_isNamePart isName _ colon) (by decide)

/-! ## Calls -/

namespace DefaultExpr

def callText (name inside : Text) : Text := name ++ CodePoint.ofChar '(' :: (inside ++ [CodePoint.ofChar ')'])

variable {inside : Text}

theorem strip_callText (isName : name.isNamePart) : (callText name inside).strip = callText name inside := by
  refine Text.strip_of_ends ?_ ?_
  · cases name with
    | nil => simp [Text.isNamePart] at isName
    | cons c rest =>
      simp only [Text.isNamePart, Bool.and_eq_true] at isName
      simpa [callText] using (CodePoint.of_starts_name isName.1).1
  · simp [callText, List.getLast?_append, List.getLast?_cons]
    decide

theorem call?_callText (isName : name.isNamePart) : call? (callText name inside) = some (name, inside) := by
  have named : (callText name inside).takeWhile (fun c => c.isWord || c = CodePoint.ofChar ':') = name := by
    rw [callText, List.takeWhile_append_of_pos fun c among => by simp [Text.isWord_of_isNamePart isName c among],
      List.takeWhile_cons, if_neg (by decide), List.append_nil]
  have rest : (callText name inside).drop name.length = CodePoint.ofChar '(' :: (inside ++ [CodePoint.ofChar ')']) := by
    rw [callText, List.drop_left]
  cases name with
  | nil => simp [Text.isNamePart] at isName
  | cons c more =>
    simp only [Text.isNamePart, Bool.and_eq_true] at isName
    unfold call?
    simp only [named, rest]
    have last : (CodePoint.ofChar '(' :: (inside ++ [CodePoint.ofChar ')'])).getLast? =
        some (CodePoint.ofChar ')') := by
      rw [← List.cons_append, List.getLast?_concat]
    rcases Bool.or_eq_true_iff.mp isName.1 with letter | underscore
    · simp [last, letter]
    · simp [last, eq_of_beq underscore]

private theorem signOf_name {rest : Text} (starts : c.isAsciiLetter || c == '_') :
    signOf (c :: rest) = [] := by
  have others := (CodePoint.of_starts_name starts).2.2
  simp only [List.mem_cons, not_or] at others
  simp [signOf, others.1, others.2.1]

private theorem no_number (starts : c.isAsciiLetter || c == '_') (rest : Text) :
    integer? (c :: rest) = none ∧ real? (c :: rest) = none := by
  obtain ⟨-, noDigit, others⟩ := CodePoint.of_starts_name starts
  simp only [List.mem_cons, not_or] at others
  have noHex : Text.startsWith "0x" (c :: rest) = false ∧ Text.startsWith "0X" (c :: rest) = false := by
    constructor <;>
    · rw [Bool.eq_false_iff, ne_eq, Draft.startsWith_iff]
      intro starts
      exact others.2.2.1 (List.cons_prefix_cons.mp starts).1.symm
  constructor
  · simp [integer?, signOf_name starts, integerDigits, noHex, noDigit]
  · simp [real?, signOf_name starts, noDigit, others.2.2.2.1, exponentOf]

/-- A call is read as a call of its type, if it has the name of the type, and else as nothing. -/
theorem form_callText (i : Interface) (cls? : Option ClassDecl) (type : Text) {given : Text} (isName : name.isNamePart)
    (call : given.strip = callText name inside) :
    form i cls? type given =
      if name = Text.afterLast "::" type then callForm i cls? type inside else .plain none := by
  have noWord : Keyed.get? (callText name inside) words = none := by
    rw [Keyed.get?_eq_none_iff]
    intro among
    have free : ∀ word ∈ Keyed.keys words, CodePoint.ofChar '(' ∉ word := by decide
    exact free _ among (by simp [callText])
  have noNumber : integer? (callText name inside) = none ∧ real? (callText name inside) = none ∧
      isQuoted (callText name inside) = false := by
    cases name with
    | nil => simp [Text.isNamePart] at isName
    | cons c rest =>
      simp only [Text.isNamePart, Bool.and_eq_true] at isName
      obtain ⟨noInteger, noReal⟩ :=
        no_number isName.1 (rest ++ CodePoint.ofChar '(' :: (inside ++ [CodePoint.ofChar ')']))
      refine ⟨noInteger, noReal, ?_⟩
      have others := (CodePoint.of_starts_name isName.1).2.2
      simp only [List.mem_cons, not_or] at others
      simp [isQuoted, callText, others.2.2.2.2.1]
  simp only [form, call, noWord, noNumber, call?_callText isName, Bool.false_eq_true, if_false]

end DefaultExpr

/-! ## Hints -/

namespace Hint

theorem ofEncoding_ne_named (encoding : Encoding) (symbol : Text) : ofEncoding encoding ≠ .named symbol := by
  cases encoding with
  | number format => cases format <;> exact nofun
  | _ => exact nofun

theorem eq_of_ofSymbol {symbol : Text} (meant : ofSymbol symbol = .named name) : name = symbol := by
  rw [ofSymbol] at meant
  split at meant
  next a found =>
    have plain := List.mem_of_find?_eq_some found
    subst meant
    simp at plain
  next => exact (Hint.named.inj meant).symm

theorem ofSymbol_of_isIdentifier (isName : name.IsIdentifier)
    (free : name ∉ (["bool", "int", "float", "str", "bytes", "Any"] : List Text)) : ofSymbol name = .named name := by
  have unspelled : [truth, integer, real, text, bytes, texts, any].find? (·.spelling = name) = none := by
    refine List.find?_eq_none.mpr fun h listed => ?_
    rw [decide_eq_true_eq]
    rintro rfl
    cases h with
    | texts => exact absurd isName (by decide)
    | named symbol => simp at listed
    | _ => exact free (by decide)
  simp [ofSymbol, unspelled]

end Hint

/-! ## Types that are no enums -/

namespace Interface

variable {i : Interface} {cls? : Option ClassDecl} {type given : Text} {limit : Nat}

theorem obstacle?_of_no_enum (noEnum : i.enum? cls? type = none) (undeclared : type ∉ i.usedEnums) :
    i.obstacle? cls? type given limit = DefaultExpr.obstacle? i limit cls? type given.strip := by
  simp [obstacle?, enumPlan?, noEnum, undeclared]

/-- What is given at a type that is no enum is taken over as what it stands for, if it stands for anything. -/
theorem default_of_no_enum (noEnum : i.enum? cls? type = none) (undeclared : type ∉ i.usedEnums)
    (nonempty : given.strip ≠ []) : i.default cls? type given limit =
      (i.literal? cls? type given.strip limit).elim
        (.empty (i.hint cls? type), some ⟨given.strip, type, (DefaultExpr.empty (i.hint cls? type)).text⟩)
        fun e => (e, none) := by
  cases literal : i.literal? cls? type given.strip limit <;>
    simp [default, enumPlan?, noEnum, undeclared, nonempty, literal]

end Interface
end Counterpart
