import Counterpart.Proofs.Calls
import Mathlib.Data.Nat.Digits.Lemmas

/-!
Integers as C++ writes them: decimal, octal or hexadecimal, with a sign in front and marks for the size behind. Main
statement: as the default of an integer type such a literal keeps its number, also inside casts to that type, as long
as no more casts stand one inside the other than can be read.
-/
namespace Counterpart

variable {c : CodePoint} {n : Nat} {t type : Text}

/-! ## Literals -/

namespace IntegerLiteral

inductive Sign where
  | absent
  | plus
  | minus
  deriving DecidableEq, Repr

def Sign.text : Sign → Text
  | .absent => []
  | .plus => "+"
  | .minus => "-"

/-- A hexadecimal digit; those above nine are capital or small letters. -/
structure HexDigit where
  value : Fin 16
  capital : Bool
  deriving DecidableEq, Repr

def digit (n : Nat) : CodePoint := CodePoint.ofNat (48 + n)

def HexDigit.codePoint (d : HexDigit) : CodePoint :=
  if d.value.val < 10 then digit d.value
  else CodePoint.ofNat (d.value - 10 + if d.capital then 65 else 97)

inductive Digits where
  /-- The first digit is one more than given, so that it is no zero. -/
  | decimal (first : Fin 9) (rest : List (Fin 10))
  | octal (digits : List (Fin 8))
  /-- The digits behind `0x` or `0X`, of which there is one at least. -/
  | hexadecimal (capital : Bool) (first : HexDigit) (rest : List HexDigit)
  deriving DecidableEq, Repr

namespace Digits

def text : Digits → Text
  | .decimal first rest => digit (first + 1) :: rest.map fun d => digit d.val
  | .octal digits => digit 0 :: digits.map fun d => digit d.val
  | .hexadecimal capital first rest => (if capital then "0X" else "0x") ++ (first :: rest).map (·.codePoint)

def magnitude : Digits → Nat
  | .decimal first rest => Nat.ofDigits 10 ((first.val + 1) :: rest.map (·.val)).reverse
  | .octal digits => Nat.ofDigits 8 (digits.map (·.val)).reverse
  | .hexadecimal _ first rest => Nat.ofDigits 16 ((first :: rest).map (·.value.val)).reverse

end Digits

/-- The mark of an unsigned number, `u` or `U`. -/
def unsignedMark (capital : Bool) : Text := if capital then "U" else "u"

/-- The mark of a long number, or of a very long one: `l`, `ll`, `L` or `LL`. -/
def longMark (double capital : Bool) : Text :=
  let letter := CodePoint.ofChar (if capital then 'L' else 'l')
  if double then [letter, letter] else [letter]

inductive Suffix where
  | absent
  | unsigned (capital : Bool)
  | long (double capital : Bool)
  | unsignedLong (unsignedCapital double capital : Bool)
  | longUnsigned (double capital unsignedCapital : Bool)
  deriving DecidableEq, Repr

def Suffix.text : Suffix → Text
  | .absent => []
  | .unsigned capital => unsignedMark capital
  | .long double capital => longMark double capital
  | .unsignedLong unsignedCapital double capital => unsignedMark unsignedCapital ++ longMark double capital
  | .longUnsigned double capital unsignedCapital => longMark double capital ++ unsignedMark unsignedCapital

end IntegerLiteral

structure IntegerLiteral where
  sign : IntegerLiteral.Sign := .absent
  digits : IntegerLiteral.Digits
  suffix : IntegerLiteral.Suffix := .absent
  deriving DecidableEq, Repr

namespace IntegerLiteral

def text (l : IntegerLiteral) : Text := l.sign.text ++ (l.digits.text ++ l.suffix.text)

def value (l : IntegerLiteral) : Int := if l.sign = .minus then -(l.digits.magnitude : Int) else l.digits.magnitude

end IntegerLiteral

/-! ## Reading digits -/

theorem ofDigits_reverse (base : Nat) (digits : List Nat) :
    Nat.ofDigits base digits.reverse = digits.foldl (fun n d => n * base + d) 0 := by
  rw [Nat.ofDigits_eq_foldr, List.foldr_reverse]
  simp only [Nat.cast_id, Nat.add_comm, Nat.mul_comm]

namespace Numeral

def spelled (base : Nat) (t : Text) : Nat := t.foldl (fun n c => n * base + (c.val - 48)) 0

theorem digits?_of_digits {base : Nat} (nonempty : t ≠ [])
    (digits : ∀ c ∈ t, c.isAsciiDigit ∧ c.val - 48 < base) : digits? base t = some (spelled base t) := by
  rw [digits?, if_neg (by simpa using nonempty), spelled]
  generalize 0 = start
  clear nonempty
  induction t generalizing start with
  | nil => rfl
  | cons c rest ih =>
    obtain ⟨isDigit, small⟩ := digits c List.mem_cons_self
    simp only [List.foldl_cons, isDigit, small, decide_true, Bool.and_self, if_true]
    exact ih (fun d among => digits d (List.mem_cons_of_mem _ among)) _

theorem asciiDigits_eq (ascii : ∀ c ∈ t, c.val < 128) : asciiDigits t = t := by
  refine (List.map_congr_left fun c among => ?_).trans (List.map_id t)
  have small := ascii c among
  rw [CodePoint.digitValue?, if_pos small]
  split
  next value digit =>
    split at digit
    next isDigit =>
      cases digit
      simp only [CodePoint.isAsciiDigit, Bool.and_eq_true, decide_eq_true_eq] at isDigit
      exact Fin.ext (by simp only [CodePoint.ofNat, id_eq]; omega)
    next => cases digit
  next => rfl

theorem dropUnderscores_digits (digits : ∀ c ∈ t, c.isAsciiDigit) {previous : CodePoint}
    (noMark : previous ≠ '_') : dropUnderscores previous t = some t := by
  induction t generalizing previous with
  | nil => simp [dropUnderscores, noMark]
  | cons c rest ih =>
    have isDigit := digits c List.mem_cons_self
    have other : c ≠ '_' := by
      rintro rfl
      exact absurd isDigit (by decide)
    rw [dropUnderscores, if_neg other, if_neg (by simp [noMark]),
      ih (fun d among => digits d (List.mem_cons_of_mem _ among)) other, Option.map_some]

theorem ascii_of_digit (isDigit : c.isAsciiDigit) : c.val < 128 := by
  simp only [CodePoint.isAsciiDigit, Bool.and_eq_true, decide_eq_true_eq] at isDigit
  omega

theorem sign_digits (digits : ∀ c ∈ t, c.isAsciiDigit) : sign t = (false, t) := by
  cases t with
  | nil => rfl
  | cons c rest =>
    have isDigit := digits c List.mem_cons_self
    have noMinus : c ≠ '-' := by
      rintro rfl
      exact absurd isDigit (by decide)
    have noPlus : c ≠ '+' := by
      rintro rfl
      exact absurd isDigit (by decide)
    simp [sign, noMinus, noPlus]

theorem trim_digits (digits : ∀ c ∈ t, c.isAsciiDigit) : Text.trim CodePoint.isNumeralBlank t = t := by
  have solid : ∀ {u : Text}, (∀ c ∈ u, c.isAsciiDigit) → u.dropWhile CodePoint.isNumeralBlank = u := by
    intro u digits
    cases u with
    | nil => rfl
    | cons c rest =>
      have isDigit := digits c List.mem_cons_self
      simp only [CodePoint.isAsciiDigit, Bool.and_eq_true, decide_eq_true_eq] at isDigit
      rw [List.dropWhile_cons, if_neg]
      simp [CodePoint.isNumeralBlank, CodePoint.isWideBlank, blankRanges]
      omega
  rw [Text.trim, solid digits, solid fun c among => digits c (List.mem_reverse.mp among), List.reverse_reverse]

theorem integer?_of_digits (nonempty : t ≠ []) (digits : ∀ c ∈ t, c.isAsciiDigit)
    (short : t.length ≤ digitLimit) : integer? t = some (spelled 10 t : Int) := by
  have plain := asciiDigits_eq fun c among => ascii_of_digit (digits c among)
  have leading : leadingDigits t = t := by
    rw [leadingDigits, List.takeWhile_eq_self_iff]
    intro c among
    simp [digits c among]
  have blank : CodePoint.ofChar ' ' ≠ CodePoint.ofChar '_' := by decide
  have read : digits? 10 t = some (spelled 10 t) := by
    refine digits?_of_digits nonempty fun c among => ⟨digits c among, ?_⟩
    have isDigit := digits c among
    simp only [CodePoint.isAsciiDigit, Bool.and_eq_true, decide_eq_true_eq] at isDigit
    omega
  simp only [integer?, readInteger, trim_digits digits, plain, sign_digits digits, leading,
    dropUnderscores_digits digits blank, if_neg (Nat.not_lt.mpr short), Option.bind_some, read]
  rfl

theorem isAsciiDigit_ofNat (n : Nat) : ∀ c ∈ Text.ofNat n, c.isAsciiDigit := by
  intro c among
  obtain ⟨d, printed, rfl⟩ := List.mem_map.mp among
  have isDigit := Nat.isDigit_of_mem_toDigits (by decide) (by decide) printed
  simp only [Char.isDigit, Bool.and_eq_true, decide_eq_true_eq, ge_iff_le, UInt32.le_iff_toNat_le] at isDigit
  simp only [CodePoint.isAsciiDigit, Bool.and_eq_true, decide_eq_true_eq]
  exact isDigit

theorem spelled_ofNat (n : Nat) : spelled 10 (Text.ofNat n) = n := by
  rw [spelled, Text.ofNat, List.foldl_map]
  conv_rhs => rw [← Nat.ofDigitChars_ten_toDigits (n := n)]
  rw [Nat.ofDigitChars]
  refine congrArg (fun f => List.foldl f 0 _) (funext fun k => funext fun c => ?_)
  exact congrArg (· + _) (Nat.mul_comm k 10)

end Numeral

/-! ## Reading literals -/

namespace IntegerLiteral

open DefaultExpr

theorem val_digit (small : n < 10) : (digit n).val = 48 + n := by
  simp only [digit, CodePoint.ofNat]
  omega

theorem isAsciiDigit_digit (small : n < 10) : (digit n).isAsciiDigit := by
  simp [CodePoint.isAsciiDigit, val_digit small]
  omega

theorem isDigit_of_isAsciiDigit (isDigit : c.isAsciiDigit) : c.isDigit := by
  rw [CodePoint.isDigit, CodePoint.digitValue?, if_pos (Numeral.ascii_of_digit isDigit), if_pos isDigit,
    Option.isSome_some]

theorem signOf_digits (digits : ∀ c ∈ t, c.isAsciiDigit) : signOf t = [] := by
  cases t with
  | nil => rfl
  | cons c rest =>
    rw [signOf, if_neg]
    intro isSign
    rcases Bool.or_eq_true_iff.mp isSign with same | same <;>
    · rw [of_decide_eq_true same] at digits
      exact absurd (digits _ List.mem_cons_self) (by decide)

theorem startsWith_hex_of_notMem (noSmall : CodePoint.ofChar 'x' ∉ t) (noCapital : CodePoint.ofChar 'X' ∉ t) :
    Text.startsWith "0x" t = false ∧ Text.startsWith "0X" t = false := by
  constructor
  · rw [Bool.eq_false_iff, ne_eq, Draft.startsWith_iff]
    exact fun starts => noSmall (starts.subset (by decide))
  · rw [Bool.eq_false_iff, ne_eq, Draft.startsWith_iff]
    exact fun starts => noCapital (starts.subset (by decide))

theorem hexValue?_codePoint : ∀ d : HexDigit, d.codePoint.hexValue? = some d.value.val := by
  rintro ⟨value, capital⟩
  revert value capital
  decide

theorem digit_notMem (small : n < 10) :
    digit n ∉ [CodePoint.ofChar '-', CodePoint.ofChar '+', CodePoint.ofChar 'x', CodePoint.ofChar 'X'] := by
  have digits : ∀ n : Fin 10,
      digit n ∉ [CodePoint.ofChar '-', CodePoint.ofChar '+', CodePoint.ofChar 'x', CodePoint.ofChar 'X'] := by decide
  exact digits ⟨n, small⟩

namespace Digits

theorem text_cons (d : Digits) : ∃ n rest, n < 10 ∧ d.text = digit n :: rest := by
  cases d with
  | decimal first rest => exact ⟨first + 1, _, by omega, rfl⟩
  | octal digits => exact ⟨0, _, by decide, rfl⟩
  | hexadecimal capital first rest => cases capital <;> exact ⟨0, _, by decide, rfl⟩

theorem isAsciiDigit_text {d : Digits} (plain : ∀ capital first rest, d ≠ .hexadecimal capital first rest) :
    ∀ c ∈ d.text, c.isAsciiDigit := by
  cases d with
  | decimal first rest =>
    intro c among
    simp only [text, List.mem_cons, List.mem_map] at among
    rcases among with rfl | ⟨d, -, rfl⟩
    · exact isAsciiDigit_digit (by omega)
    · exact isAsciiDigit_digit d.isLt
  | octal digits =>
    intro c among
    simp only [text, List.mem_cons, List.mem_map] at among
    rcases among with rfl | ⟨d, -, rfl⟩
    · decide
    · exact isAsciiDigit_digit (by omega)
  | hexadecimal capital first rest => exact absurd rfl (plain capital first rest)

end Digits

variable (l : IntegerLiteral)

theorem ascii_text : ∀ c ∈ l.sign.text ++ l.digits.text, c.val < 128 := by
  have signs : ∀ sign : Sign, sign.text.all (·.val < 128) := by rintro (_ | _ | _) <;> decide
  have marks : ∀ capital : Bool, (Text.ofString (if capital then "0X" else "0x")).all (·.val < 128) := by decide
  have hexDigits : ∀ d : HexDigit, d.codePoint.val < 128 := by
    rintro ⟨value, capital⟩
    revert value capital
    decide
  intro c among
  rcases List.mem_append.mp among with among | among
  · exact of_decide_eq_true (List.all_eq_true.mp (signs l.sign) c among)
  cases digits : l.digits with
  | decimal first rest => exact Numeral.ascii_of_digit (Digits.isAsciiDigit_text (by simp [digits]) c among)
  | octal given => exact Numeral.ascii_of_digit (Digits.isAsciiDigit_text (by simp [digits]) c among)
  | hexadecimal capital first rest =>
    rw [digits, Digits.text] at among
    rcases List.mem_append.mp among with among | among
    · exact of_decide_eq_true (List.all_eq_true.mp (marks capital) c among)
    · obtain ⟨d, -, rfl⟩ := List.mem_map.mp among
      exact hexDigits d

theorem Suffix.mem_marks (s : Suffix) : s.text ∈ integerMarks := by
  revert s
  rintro (_ | ⟨_ | _⟩ | ⟨_ | _, _ | _⟩ | ⟨_ | _, _ | _, _ | _⟩ | ⟨_ | _, _ | _, _ | _⟩) <;> decide

theorem Suffix.notMem_text (s : Suffix) : CodePoint.ofChar 'x' ∉ s.text ∧ CodePoint.ofChar 'X' ∉ s.text := by
  revert s
  rintro (_ | ⟨_ | _⟩ | ⟨_ | _, _ | _⟩ | ⟨_ | _, _ | _, _ | _⟩ | ⟨_ | _, _ | _, _ | _⟩) <;> decide

theorem Suffix.isBlank_text (s : Suffix) : ∀ c ∈ s.text, c.isBlank = false := by
  have solid : s.text.all (!·.isBlank) := by
    revert s
    rintro (_ | ⟨_ | _⟩ | ⟨_ | _, _ | _⟩ | ⟨_ | _, _ | _, _ | _⟩ | ⟨_ | _, _ | _, _ | _⟩) <;> decide
  intro c among
  simpa using List.all_eq_true.mp solid c among

theorem Suffix.takeWhile_text (s : Suffix) :
    s.text.takeWhile (·.isDigit) = [] ∧ s.text.takeWhile (·.hexValue?.isSome) = [] := by
  revert s
  rintro (_ | ⟨_ | _⟩ | ⟨_ | _, _ | _⟩ | ⟨_ | _, _ | _, _ | _⟩ | ⟨_ | _, _ | _, _ | _⟩) <;> decide

theorem signOf_text (rest : Text) : signOf (l.digits.text ++ rest) = [] ∧
    signOf (l.sign.text ++ (l.digits.text ++ rest)) = l.sign.text := by
  have noSign : signOf (l.digits.text ++ rest) = [] := by
    obtain ⟨n, more, small, starts⟩ := l.digits.text_cons
    have others := digit_notMem small
    simp only [List.mem_cons, not_or] at others
    simp [starts, signOf, others.1, others.2.1]
  refine ⟨noSign, ?_⟩
  cases l.sign with
  | absent => exact noSign
  | plus => rfl
  | minus => rfl

/-- Only hexadecimal digits start like hexadecimal digits, as no other literal has an `x`. -/
theorem Digits.startsWith_hex {d : Digits} (plain : ∀ capital first rest, d ≠ .hexadecimal capital first rest)
    (s : Suffix) :
    Text.startsWith "0x" (d.text ++ s.text) = false ∧ Text.startsWith "0X" (d.text ++ s.text) = false := by
  have free : ∀ x, x.isAsciiDigit = false → x ∉ s.text → x ∉ d.text ++ s.text := by
    intro x noDigit noMark among
    rcases List.mem_append.mp among with among | among
    · exact Bool.eq_false_iff.mp noDigit (isAsciiDigit_text plain x among)
    · exact noMark among
  exact startsWith_hex_of_notMem (free _ (by decide) s.notMem_text.1) (free _ (by decide) s.notMem_text.2)

theorem integerDigits_text (d : Digits) (s : Suffix) : integerDigits (d.text ++ s.text) = d.text := by
  obtain ⟨noDigit, noHexDigit⟩ := s.takeWhile_text
  have plainCase (plain : ∀ capital first rest, d ≠ .hexadecimal capital first rest) :
      integerDigits (d.text ++ s.text) = d.text := by
    obtain ⟨small, large⟩ := Digits.startsWith_hex plain s
    have digits : ∀ c ∈ d.text, c.isDigit := fun c among =>
      isDigit_of_isAsciiDigit (Digits.isAsciiDigit_text plain c among)
    simp [integerDigits, small, large, List.takeWhile_append_of_pos digits, noDigit]
  cases d with
  | decimal first rest => exact plainCase (by simp)
  | octal digits => exact plainCase (by simp)
  | hexadecimal capital first rest =>
    have digits : ∀ c ∈ (first :: rest).map (·.codePoint), c.hexValue?.isSome := by
      intro c among
      obtain ⟨d, -, rfl⟩ := List.mem_map.mp among
      rw [hexValue?_codePoint, Option.isSome_some]
    have taken : ((first :: rest).map (·.codePoint) ++ s.text).takeWhile (·.hexValue?.isSome) =
        (first :: rest).map (·.codePoint) := by
      rw [List.takeWhile_append_of_pos digits, noHexDigit, List.append_nil]
    have starts : Text.startsWith "0x" ((Digits.hexadecimal capital first rest).text ++ s.text) ||
        Text.startsWith "0X" ((Digits.hexadecimal capital first rest).text ++ s.text) := by
      cases capital <;> rfl
    have behind : ((Digits.hexadecimal capital first rest).text ++ s.text).drop 2 =
        (first :: rest).map (·.codePoint) ++ s.text := by
      cases capital <;> rfl
    rw [integerDigits, behind, taken, starts]
    cases capital <;> rfl

theorem integer?_text : integer? l.text = some (l.sign.text ++ l.digits.text) := by
  obtain ⟨n, rest, -, starts⟩ := l.digits.text_cons
  have body : l.text.drop l.sign.text.length = l.digits.text ++ l.suffix.text := by rw [text, List.drop_left]
  have marked : integerMarks.contains ((l.digits.text ++ l.suffix.text).drop l.digits.text.length) := by
    rw [List.drop_left, List.contains_iff_mem]
    exact l.suffix.mem_marks
  have found : signOf l.text = l.sign.text := (l.signOf_text l.suffix.text).2
  simp only [integer?, found, body, integerDigits_text, marked]
  simp [starts]

def translation (l : IntegerLiteral) : Text :=
  match l.digits with
  | .octal (_ :: _) => Text.ofInt l.value
  | _ => l.sign.text ++ l.digits.text

theorem spelled_map_digit (base : Nat) (digits : List Nat) (small : ∀ d ∈ digits, d < 10) :
    Numeral.spelled base (digits.map digit) = Nat.ofDigits base digits.reverse := by
  rw [ofDigits_reverse, Numeral.spelled, List.foldl_map]
  refine List.foldl_ext _ _ _ fun n d among => ?_
  rw [val_digit (small d among), Nat.add_sub_cancel_left]

theorem isOctal_text : isOctal (l.sign.text ++ l.digits.text) = match l.digits with
    | .octal (_ :: _) => true
    | _ => false := by
  have dropped : (l.sign.text ++ l.digits.text).drop (signOf (l.sign.text ++ l.digits.text)).length =
      l.digits.text := by
    have found : signOf (l.sign.text ++ l.digits.text) = l.sign.text := by simpa using (l.signOf_text []).2
    rw [found, List.drop_left]
  rw [isOctal, dropped]
  cases l.digits with
  | decimal first rest =>
    have noZero : digit (first + 1) ≠ '0' := by
      intro same
      have : 48 + (first.val + 1) = 48 := (val_digit (n := first + 1) (by omega)).symm.trans (congrArg Fin.val same)
      omega
    cases rest <;> simp [Digits.text, noZero]
  | octal digits =>
    cases digits with
    | nil => rfl
    | cons d rest =>
      have allDigits : ((d :: rest).map fun e => digit e.val).all (·.isDigit) := by
        simp only [List.all_map, List.all_eq_true, Function.comp_apply]
        exact fun e _ => isDigit_of_isAsciiDigit (isAsciiDigit_digit (by omega))
      rw [List.map_cons] at allDigits
      simp only [Digits.text, List.map_cons, allDigits, show digit 0 = '0' from rfl, decide_true,
        Bool.and_self]
  | hexadecimal capital first rest => cases capital <;> rfl

theorem lt_digitLimit (small : n < 2 ^ 64) : n < 10 ^ Numeral.digitLimit :=
  calc n < 2 ^ 64 := small
    _ ≤ 10 ^ 20 := by norm_num
    _ ≤ 10 ^ Numeral.digitLimit := Nat.pow_le_pow_right (by decide) (by decide)

theorem digits?_octal (digits : List (Fin 8)) :
    Numeral.digits? 8 (Digits.octal digits).text = some (Digits.octal digits).magnitude := by
  have listed : (Digits.octal digits).text = (0 :: digits.map (·.val)).map digit := by simp [Digits.text]
  have below : ∀ d ∈ 0 :: digits.map (·.val), d < 8 := by
    simp only [List.mem_cons, List.mem_map]
    rintro d (rfl | ⟨d, -, rfl⟩)
    · decide
    · exact d.isLt
  have read : ∀ c ∈ (0 :: digits.map (·.val)).map digit, c.isAsciiDigit ∧ c.val - 48 < 8 := by
    intro c among
    obtain ⟨d, given, rfl⟩ := List.mem_map.mp among
    have small := below d given
    refine ⟨isAsciiDigit_digit (by omega), ?_⟩
    rw [val_digit (by omega)]
    omega
  have tens : ∀ d ∈ 0 :: digits.map (·.val), d < 10 := fun d among => (below d among).trans (by decide)
  rw [listed, Numeral.digits?_of_digits (by simp) read, spelled_map_digit 8 _ tens]
  simp [ofDigits_reverse, Digits.magnitude]

theorem octal?_text {digits : List (Fin 8)} (octal : l.digits = .octal digits) (small : l.digits.magnitude < 2 ^ 64) :
    Numeral.octal? (l.sign.text ++ l.digits.text) = some l.value := by
  have plain : ∀ c ∈ l.digits.text, c.isAsciiDigit := Digits.isAsciiDigit_text (by simp [octal])
  have ascii : Numeral.asciiDigits (l.sign.text ++ l.digits.text) = l.sign.text ++ l.digits.text :=
    Numeral.asciiDigits_eq l.ascii_text
  have split : Numeral.sign (l.sign.text ++ l.digits.text) = (decide (l.sign = .minus), l.digits.text) := by
    cases l.sign with
    | absent => exact Numeral.sign_digits plain
    | plus => rfl
    | minus => rfl
  have read : Numeral.digits? 8 l.digits.text = some l.digits.magnitude := by rw [octal, digits?_octal]
  have fits : (some l.digits.magnitude).filter (· < 10 ^ Numeral.digitLimit) = some l.digits.magnitude :=
    Option.filter_eq_some_iff.mpr ⟨rfl, decide_eq_true (lt_digitLimit small)⟩
  simp only [Numeral.octal?, ascii, split, read, fits]
  simp [value]

theorem ofInteger?_text (small : l.digits.magnitude < 2 ^ 64) :
    ofInteger? (l.sign.text ++ l.digits.text) = some (.integer l.translation) := by
  have isOctal := l.isOctal_text
  rw [ofInteger?]
  obtain ⟨sign, digits, suffix⟩ := l
  cases digits with
  | decimal first rest => rw [isOctal, if_neg (by simp)]; rfl
  | hexadecimal capital first rest => rw [isOctal, if_neg (by simp)]; rfl
  | octal given =>
    cases given with
    | nil => rw [isOctal, if_neg (by simp)]; rfl
    | cons d rest => rw [isOctal, if_pos rfl, octal?_text ⟨sign, .octal (d :: rest), suffix⟩ rfl small]; rfl

/-! ## The number of an expression -/

theorem hexNumber?_text (digits : List HexDigit) :
    Literal.hexNumber? (digits.map (·.codePoint)) = some (Nat.ofDigits 16 (digits.map (·.value.val)).reverse) := by
  rw [ofDigits_reverse, Literal.hexNumber?, List.foldl_map, List.foldl_map]
  generalize 0 = start
  induction digits generalizing start with
  | nil => rfl
  | cons d rest ih =>
    rw [List.foldl_cons, List.foldl_cons, Option.bind_some, hexValue?_codePoint d, Option.map_some]
    exact ih _

/-- Decimal digits whose first is no zero are as few as their number is small. -/
theorem length_decimal {first : Fin 9} {rest : List (Fin 10)} (small : (Digits.decimal first rest).magnitude < 2 ^ 64) :
    (Digits.decimal first rest).text.length ≤ Numeral.digitLimit := by
  have nonempty : ((first.val + 1) :: rest.map (·.val)).reverse ≠ [] := by simp
  have leading : ((first.val + 1) :: rest.map (·.val)).reverse.getLast nonempty ≠ 0 := by simp
  have bound := Nat.pow_length_le_mul_ofDigits (b := 8) nonempty leading
  have length : ((first.val + 1) :: rest.map (·.val)).reverse.length = (Digits.decimal first rest).text.length := by
    simp [Digits.text]
  rw [length] at bound
  have power : 10 ^ (Digits.decimal first rest).text.length < 10 ^ 21 :=
    calc 10 ^ (Digits.decimal first rest).text.length ≤ 10 * (Digits.decimal first rest).magnitude := bound
      _ < 10 * 2 ^ 64 := by omega
      _ ≤ 10 ^ 21 := by norm_num
  have few := (Nat.pow_lt_pow_iff_right (by decide)).mp power
  exact few.le.trans (by decide)

theorem integerSize_digits (nonempty : t ≠ []) (digits : ∀ c ∈ t, c.isAsciiDigit)
    (short : t.length ≤ Numeral.digitLimit) : integerSize t = Numeral.spelled 10 t := by
  obtain ⟨noSmall, noCapital⟩ := startsWith_hex_of_notMem (t := t)
    (fun among => absurd (digits _ among) (by decide)) fun among => absurd (digits _ among) (by decide)
  rw [integerSize, noSmall, noCapital, if_neg (by simp), Numeral.integer?_of_digits nonempty digits short,
    Option.getD_some, Int.toNat_natCast]

theorem integerSize_text (small : l.digits.magnitude < 2 ^ 64) (written : ∀ d rest, l.digits ≠ .octal (d :: rest)) :
    integerSize l.digits.text = l.digits.magnitude := by
  cases digits : l.digits with
  | hexadecimal capital first rest =>
    have starts : Text.startsWith "0x" (Digits.hexadecimal capital first rest).text ||
        Text.startsWith "0X" (Digits.hexadecimal capital first rest).text := by
      cases capital <;> rfl
    have behind : (Digits.hexadecimal capital first rest).text.drop 2 = (first :: rest).map (·.codePoint) := by
      cases capital <;> rfl
    rw [integerSize, if_pos starts, behind, hexNumber?_text, Option.getD_some, Digits.magnitude]
  | octal given =>
    cases given with
    | nil => rfl
    | cons d rest => exact absurd digits (written d rest)
  | decimal first rest =>
    rw [digits] at small
    have plain := Digits.isAsciiDigit_text (d := .decimal first rest) (by simp)
    have listed : (Digits.decimal first rest).text = ((first.val + 1) :: rest.map (·.val)).map digit := by
      simp [Digits.text]
    have tens : ∀ d ∈ (first.val + 1) :: rest.map (·.val), d < 10 := by
      simp only [List.mem_cons, List.mem_map]
      rintro d (rfl | ⟨d, -, rfl⟩) <;> omega
    rw [integerSize_digits (by simp [listed]) plain (length_decimal small), listed, spelled_map_digit 10 _ tens,
      Digits.magnitude]

theorem value_ofInt {i : Int} (small : i.natAbs < 10 ^ Numeral.digitLimit) (m : Module) :
    (DefaultExpr.integer (Text.ofInt i)).value m = .ok (.integer i) := by
  have digits := Numeral.isAsciiDigit_ofNat i.natAbs
  have short : (Text.ofNat i.natAbs).length ≤ Numeral.digitLimit := by
    rw [Text.ofNat, List.length_map, Nat.length_toDigits_le_iff (by decide) (by decide)]
    exact small
  have ascii : (Text.ofNat i.natAbs).all (·.val < 128) :=
    List.all_eq_true.mpr fun c among => decide_eq_true (Numeral.ascii_of_digit (digits c among))
  have size : integerSize (Text.ofNat i.natAbs) = i.natAbs := by
    rw [integerSize_digits (by simp [Text.ofNat]) digits short, Numeral.spelled_ofNat]
  rw [Text.ofInt, DefaultExpr.value]
  split
  next negative =>
    have sign : signOf (CodePoint.ofChar '-' :: Text.ofNat i.natAbs) = "-" := rfl
    have behind : (CodePoint.ofChar '-' :: Text.ofNat i.natAbs).drop ("-" : Text).length = Text.ofNat i.natAbs := rfl
    have readable : isReadable (CodePoint.ofChar '-' :: Text.ofNat i.natAbs) := by
      rw [isReadable, sign, behind, List.all_cons, ascii]
      simp [short]
      decide
    rw [if_pos readable, integerValue, sign, behind, size, if_pos rfl]
    exact congrArg (fun n => Except.ok (Value.integer n)) (by omega)
  next positive =>
    have readable : isReadable (Text.ofNat i.natAbs) := by
      rw [isReadable, signOf_digits digits, ascii]
      simp [short]
    rw [if_pos readable, integerValue, signOf_digits digits, List.length_nil, List.drop_zero, size, if_neg (by decide)]
    exact congrArg (fun n => Except.ok (Value.integer n)) (by omega)

theorem value_translation (small : l.digits.magnitude < 2 ^ 64) (m : Module) :
    (DefaultExpr.integer l.translation).value m = .ok (.integer l.value) := by
  have asWritten (written : ∀ d rest, l.digits ≠ .octal (d :: rest)) :
      (DefaultExpr.integer (l.sign.text ++ l.digits.text)).value m = .ok (.integer l.value) := by
    have sign : signOf (l.sign.text ++ l.digits.text) = l.sign.text := by simpa using (l.signOf_text []).2
    have isMinus : l.sign.text = "-" ↔ l.sign = .minus := by cases l.sign <;> decide
    have few : Text.startsWith "0x" l.digits.text || Text.startsWith "0X" l.digits.text ||
        decide (l.digits.text.length ≤ Numeral.digitLimit) := by
      cases digits : l.digits with
      | decimal first rest => simp [length_decimal (digits ▸ small)]
      | octal given =>
        cases given with
        | nil => rfl
        | cons d rest => exact absurd digits (written d rest)
      | hexadecimal capital first rest => cases capital <;> rfl
    have readable : isReadable (l.sign.text ++ l.digits.text) := by
      rw [isReadable, sign, List.drop_left, few, Bool.and_true, List.all_eq_true]
      exact fun c among => decide_eq_true (l.ascii_text c among)
    rw [DefaultExpr.value, if_pos readable]
    simp only [integerValue, sign, List.drop_left, l.integerSize_text small written, isMinus]
    rfl
  obtain ⟨sign, digits, suffix⟩ := l
  cases digits with
  | decimal first rest => exact asWritten (by simp)
  | hexadecimal capital first rest => exact asWritten (by simp)
  | octal given =>
    cases given with
    | nil => exact asWritten (by simp)
    | cons d rest =>
      refine value_ofInt (lt_digitLimit (lt_of_eq_of_lt ?_ small)) m
      simp only [value]
      split <;> simp

/-! ## Casts -/

def blanks (n : Nat) : Text := List.replicate n (CodePoint.ofChar ' ')

/-- Casts to a type one inside the other, with blanks before and after what stands in each. -/
def casts (type : Text) : List (Nat × Nat) → Text → Text
  | [], inner => inner
  | (before, after) :: rest, inner => callText type (blanks before ++ casts type rest inner ++ blanks after)

theorem isBlank_blanks : ∀ c ∈ blanks n, c.isBlank := by
  intro c among
  rw [List.eq_of_mem_replicate among]
  decide

theorem isNamePart_of_isBuiltin (builtin : Builtin.isBuiltin type) : type.isNamePart := by
  have names : Builtin.names.all Text.isNamePart := by decide
  exact List.all_eq_true.mp names type (Builtin.isBuiltin_iff.mp builtin)

theorem isBlank_text : ∀ c ∈ l.text, c.isBlank = false := by
  have signs : ∀ s : Sign, s.text.all (!·.isBlank) := by rintro (_ | _ | _) <;> decide
  have plainDigits : ∀ c : CodePoint, c.isAsciiDigit → c.isBlank = false := by
    intro c isDigit
    simp only [CodePoint.isAsciiDigit, Bool.and_eq_true, decide_eq_true_eq] at isDigit
    simp [CodePoint.isBlank, CodePoint.isWideBlank, blankRanges]
    omega
  have hexDigits : ∀ d : HexDigit, d.codePoint.isBlank = false := by
    rintro ⟨value, capital⟩
    revert value capital
    decide
  intro c among
  rcases List.mem_append.mp among with among | among
  · simpa using List.all_eq_true.mp (signs l.sign) c among
  rcases List.mem_append.mp among with among | among
  · cases digits : l.digits with
    | decimal first rest => exact plainDigits c (Digits.isAsciiDigit_text (by simp [digits]) c among)
    | octal given => exact plainDigits c (Digits.isAsciiDigit_text (by simp [digits]) c among)
    | hexadecimal capital first rest =>
      rw [digits, Digits.text] at among
      rcases List.mem_append.mp among with among | among
      · have marks : ∀ capital : Bool, (Text.ofString (if capital then "0X" else "0x")).all (!·.isBlank) := by
          decide
        simpa using List.all_eq_true.mp (marks capital) c among
      · obtain ⟨d, -, rfl⟩ := List.mem_map.mp among
        exact hexDigits d
  · exact l.suffix.isBlank_text c among

theorem strip_text : l.text.strip = l.text :=
  Text.strip_of_ends (fun c first => l.isBlank_text c (List.mem_of_mem_head? first))
    fun c last => l.isBlank_text c (List.mem_of_getLast? last)

theorem head?_text : ∃ c rest, l.text = c :: rest ∧ c.isAsciiLetter = false := by
  obtain ⟨n, rest, small, starts⟩ := l.digits.text_cons
  obtain ⟨sign, digits, suffix⟩ := l
  cases sign with
  | plus => exact ⟨_, _, rfl, by decide⟩
  | minus => exact ⟨_, _, rfl, by decide⟩
  | absent =>
    refine ⟨digit n, rest ++ suffix.text, ?_, ?_⟩
    · simp only [text, Sign.text, starts, List.nil_append, List.cons_append]
    · simp [CodePoint.isAsciiLetter, val_digit small]
      omega

theorem strip_casts (isName : type.isNamePart) (pads : List (Nat × Nat)) :
    (casts type pads l.text).strip = casts type pads l.text := by
  cases pads with
  | nil => exact l.strip_text
  | cons pad rest => exact strip_callText isName

theorem casts_ne_nil (type : Text) (pads : List (Nat × Nat)) : casts type pads l.text ≠ [] := by
  cases pads with
  | nil =>
    obtain ⟨c, rest, starts, -⟩ := l.head?_text
    simp [casts, starts]
  | cons pad rest => simp [casts, callText]

variable (i : Interface) (cls? : Option ClassDecl)

theorem form_text (integers : i.hint cls? type = .integer) (small : l.digits.magnitude < 2 ^ 64) :
    form i cls? type l.text = .plain (some (.integer l.translation)) := by
  have noWord : Keyed.get? l.text words = none := by
    rw [Keyed.get?_eq_none_iff]
    intro among
    obtain ⟨c, rest, starts, noLetter⟩ := l.head?_text
    have letters : (Keyed.keys words).all (·.head?.any CodePoint.isAsciiLetter) := by decide
    have letter := List.all_eq_true.mp letters _ among
    simp [starts, noLetter] at letter
  simp only [form, l.strip_text, noWord, l.integer?_text, integers, takesIntegers, l.ofInteger?_text small]

theorem form_casts (builtin : Builtin.isBuiltin type) (pad : Nat × Nat) (pads : List (Nat × Nat)) :
    form i cls? type (casts type (pad :: pads) l.text) = .wrapped (casts type pads l.text) := by
  have isName := isNamePart_of_isBuiltin builtin
  have inner : (blanks pad.1 ++ casts type pads l.text ++ blanks pad.2).strip = casts type pads l.text := by
    rw [Text.strip_padded _ isBlank_blanks isBlank_blanks, l.strip_casts isName]
  rw [form_callText i cls? type isName (l.strip_casts isName (pad :: pads)),
    if_pos (Text.afterLast_of_isNamePart isName).symm, callForm, inner, if_pos builtin, if_neg]
  simpa using l.casts_ne_nil type pads

theorem literal?_casts (builtin : Builtin.isBuiltin type) (integers : ∀ cls?, i.hint cls? type = .integer)
    (small : l.digits.magnitude < 2 ^ 64) (pads : List (Nat × Nat)) (fuel : Nat) :
    DefaultExpr.literal? i fuel cls? type (casts type pads l.text) =
      if pads.length < fuel then some (.integer l.translation) else none := by
  induction fuel generalizing cls? pads with
  | zero => rfl
  | succ fuel ih =>
    cases pads with
    | nil => simp [DefaultExpr.literal?, casts, l.form_text i cls? (integers cls?) small]
    | cons pad rest =>
      simp [DefaultExpr.literal?, l.form_casts i cls? builtin, ih]

theorem obstacle?_casts (builtin : Builtin.isBuiltin type) (integers : ∀ cls?, i.hint cls? type = .integer)
    (small : l.digits.magnitude < 2 ^ 64) (pads : List (Nat × Nat)) (fuel : Nat) :
    DefaultExpr.obstacle? i fuel cls? type (casts type pads l.text) =
      if pads.length < fuel then none else some .endless := by
  induction fuel generalizing cls? pads with
  | zero => rfl
  | succ fuel ih =>
    cases pads with
    | nil => simp [DefaultExpr.obstacle?, casts, l.form_text i cls? (integers cls?) small]
    | cons pad rest =>
      simp [DefaultExpr.obstacle?, l.form_casts i cls? builtin, ih]

/-- As the default of an integer type that no enum hides, an integer literal of at most 64 bits is taken over without a
warning and keeps its number, also inside casts to that type. Only where more casts stand one inside the other than
can be read, the default is not read at all. -/
theorem default_casts (builtin : Builtin.isBuiltin type) (integers : i.hint cls? type = .integer)
    (unshadowed : i.enum? cls? type = none) (undeclared : type ∉ i.usedEnums) (small : l.digits.magnitude < 2 ^ 64)
    (pads : List (Nat × Nat)) (limit : Nat) :
    i.obstacle? cls? type (casts type pads l.text) limit = (if pads.length < limit then none else some .endless) ∧
      (pads.length < limit →
        ∃ e, i.default cls? type (casts type pads l.text) limit = (e, none) ∧
          ∀ m, e.value m = .ok (.integer l.value)) := by
  have everywhere : ∀ cls?, i.hint cls? type = .integer := by
    intro other
    obtain ⟨encoding, known⟩ := Option.isSome_iff_exists.mp builtin
    rw [Interface.hint, known] at integers ⊢
    exact integers
  have trimmed := l.strip_casts (isNamePart_of_isBuiltin builtin) pads
  constructor
  · rw [Interface.obstacle?_of_no_enum unshadowed undeclared, trimmed]
    exact l.obstacle?_casts i cls? builtin everywhere small pads limit
  · intro few
    refine ⟨.integer l.translation, ?_, l.value_translation small⟩
    rw [Interface.default_of_no_enum unshadowed undeclared (by simpa [trimmed] using l.casts_ne_nil type pads), trimmed,
      Interface.literal?, l.literal?_casts i cls? builtin everywhere small pads, if_pos few, Option.elim_some]

theorem default_casts_mask :
    casts "quint8" [(1, 0), (0, 2)] (⟨.minus, .octal [1, 7], .unsignedLong false true true⟩ : IntegerLiteral).text =
        "quint8( quint8(-017uLL  ))" ∧
      ∃ e, ({} : Interface).default none "quint8" "quint8( quint8(-017uLL  ))" = (e, none) ∧
        ∀ m, e.value m = .ok (.integer (-15)) :=
  ⟨by decide, (default_casts ⟨.minus, .octal [1, 7], .unsignedLong false true true⟩ {} none (by decide) (by decide) rfl
    (by decide) (by decide) [(1, 0), (0, 2)] DefaultExpr.callLimit).2 (by decide)⟩

end IntegerLiteral
end Counterpart
