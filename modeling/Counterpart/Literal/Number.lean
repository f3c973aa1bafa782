import Counterpart.Literal.Basic
import Counterpart.Number.Numeral

/-!
Numbers as they are written in a generated module: integers in four bases, fractions and imaginary
numbers. A single underscore may stand between two digits and after the mark of a base.
-/
namespace Counterpart.Literal

/-- Digits at the start of a text, with single underscores between them: the digits alone, and what
follows. -/
def digitRun (isDigit : CodePoint → Bool) : Text → Text × Text
  | [] => ([], [])
  | [c] => if isDigit c then ([c], []) else ([], [c])
  | c :: d :: rest =>
    if isDigit c then
      let (digits, after) := digitRun isDigit (d :: rest)
      (c :: digits, after)
    else if c = '_' && isDigit d then digitRun isDigit (d :: rest)
    else ([], c :: d :: rest)

def leadingRun (isDigit : CodePoint → Bool) (t : Text) : Text × Text :=
  match t with
  | c :: _ => if isDigit c then digitRun isDigit t else ([], t)
  | [] => ([], [])

def marks : List (Text × Nat) :=
  [("0x", 16), ("0X", 16), ("0o", 8), ("0O", 8), ("0b", 2), ("0B", 2)]

def marked? (t : Text) : Option (Literal × Text) :=
  marks.findSome? fun (mark, base) =>
    (Text.after? mark t).bind fun rest =>
      let isDigit (c : CodePoint) : Bool := c.hexValue?.any (· < base)
      let (digits, after) := match rest with
        | c :: more => if c = '_' then leadingRun isDigit more else leadingRun isDigit rest
        | [] => ([], [])
      if digits.isEmpty then none
      else
        let n := digits.foldl (fun n c => n * base + c.hexValue?.getD 0) 0
        some (.integer n, after)

def exponentRun (t : Text) : Text × Text :=
  match t with
  | c :: rest =>
    if c = 'e' || c = 'E' then
      let sign := rest.take (match rest with
        | s :: _ => if s = '-' || s = '+' then 1 else 0
        | [] => 0)
      let (digits, after) := leadingRun (·.isAsciiDigit) (rest.drop sign.length)
      if digits.isEmpty then ([], t) else (c :: (sign ++ digits), after)
    else ([], t)
  | [] => ([], [])

/-- A number in decimal. An integer with a zero in front of other digits is none, and so is one that has
too many digits. -/
def decimal? (t : Text) : Option (Literal × Text) :=
  let (whole, rest) := leadingRun (·.isAsciiDigit) t
  let (point, fraction, rest) : Text × Text × Text :=
    match rest with
    | c :: more =>
      if c = '.' then
        let (digits, after) := leadingRun (·.isAsciiDigit) more
        ([c], digits, after)
      else ([], [], rest)
    | [] => ([], [], [])
  if whole.isEmpty && fraction.isEmpty then none
  else
    let (exponent, rest) := exponentRun rest
    let isWhole := point.isEmpty && exponent.isEmpty
    let real := (Numeral.double? (whole ++ point ++ fraction ++ exponent)).getD .zero
    let isImaginary := match rest with
      | c :: _ => c = 'j' || c = 'J'
      | [] => false
    if isImaginary then some (.complex .zero real, rest.drop 1)
    else if !isWhole then some (.real real, rest)
    else if whole.head? = some (CodePoint.ofChar '0') && whole.any (· ≠ '0') then none
    else (Numeral.integer? whole).map fun i => (.integer i, rest)

def number? (t : Text) : Option (Literal × Text) := marked? t <|> decimal? t

end Counterpart.Literal
