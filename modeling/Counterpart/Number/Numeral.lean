import Counterpart.Number.Double
import Counterpart.Text.Blank
import Counterpart.Text.Digit

/-!
Numerals in texts: integers and decimal fractions, with blanks around them, a sign, single underscores
between digits, and the digits of any script.
-/
namespace Counterpart.Numeral

def sign : Text → Bool × Text
  | [] => (false, [])
  | c :: rest =>
    if c = '-' then (true, rest)
    else if c = '+' then (false, rest)
    else (false, c :: rest)

def asciiDigits (t : Text) : Text :=
  t.map fun c =>
    match c.digitValue? with
    | some value => CodePoint.ofNat (48 + value)
    | none => c

def dropUnderscores (previous : CodePoint) : Text → Option Text
  | [] => if previous = '_' then none else some []
  | c :: rest =>
    if c = '_' then
      if previous.isAsciiDigit then dropUnderscores c rest else none
    else if previous = '_' && !c.isAsciiDigit then none
    else (dropUnderscores c rest).map (c :: ·)

def digits? (base : Nat) (t : Text) : Option Nat :=
  if t.isEmpty then none
  else t.foldl (fun sofar c =>
    match sofar with
    | some n =>
      if c.isAsciiDigit && c.val - 48 < base then some (n * base + (c.val - 48)) else none
    | none => none) (some 0)

def digitLimit : Nat := 4300

inductive Refusal where
  | malformed
  | tooLong (digits : Nat)
  deriving DecidableEq, Repr

def tooLongMessage (digits : Nat) : Text :=
  Text.concat ["Exceeds the limit (", Text.ofNat digitLimit,
    " digits) for integer string conversion: value has ", Text.ofNat digits,
    " digits; use sys.set_int_max_str_digits() to increase the limit"]

def leadingDigits (t : Text) : Text :=
  t.takeWhile fun c => c.isAsciiDigit || c = '_'

/-- The integer that a text spells in decimal. The digits at its start are counted before anything
behind them is looked at. -/
def readInteger (t : Text) : Except Refusal Int :=
  let (negative, body) := sign (asciiDigits (Text.trim CodePoint.isNumeralBlank t))
  match dropUnderscores ' ' (leadingDigits body) with
  | none => .error .malformed
  | some leading =>
    if digitLimit < leading.length then .error (.tooLong leading.length)
    else
      match (dropUnderscores ' ' body).bind (digits? 10) with
      | some n => .ok (if negative then -(n : Int) else n)
      | none => .error .malformed

def integer? (t : Text) : Option Int := (readInteger t).toOption

/-- The integer that a text spells in octal, after an optional sign. One that has too many decimal
digits to be written is none. -/
def octal? (t : Text) : Option Int :=
  let (negative, body) := sign (asciiDigits t)
  ((digits? 8 body).filter (· < 10 ^ digitLimit)).map fun n => if negative then -(n : Int) else n

def exponent? : Text → Option Int
  | [] => some 0
  | c :: rest =>
    if c = 'e' || c = 'E' then
      let (negative, body) := sign rest
      (digits? 10 body).map fun n => if negative then -(n : Int) else n
    else none

def decimal? (negative : Bool) (t : Text) : Option Double :=
  let whole := t.takeWhile (·.isAsciiDigit)
  let rest := t.dropWhile (·.isAsciiDigit)
  let (fraction, rest) :=
    match rest with
    | c :: more =>
      if c = '.' then
        (more.takeWhile (·.isAsciiDigit), more.dropWhile (·.isAsciiDigit))
      else ([], rest)
    | [] => ([], [])
  match digits? 10 (whole ++ fraction), exponent? rest with
  | some n, some e => some (Double.ofDecimal negative n (e - fraction.length))
  | _, _ => none

def lower (t : Text) : Text :=
  t.map fun c => if 65 ≤ c.val && c.val ≤ 90 then CodePoint.ofNat (c.val + 32) else c

def double? (t : Text) : Option Double :=
  let trimmed := asciiDigits (Text.trim CodePoint.isNumeralBlank t)
  match dropUnderscores ' ' trimmed with
  | none => none
  | some bare =>
    let (negative, body) := sign bare
    let word := lower body
    if word = "inf" || word = "infinity" then some (Double.infinity negative)
    else if word = "nan" then
      some (if negative then ⟨0xFFF8000000000000⟩ else Double.notANumber)
    else decimal? negative body

end Counterpart.Numeral
