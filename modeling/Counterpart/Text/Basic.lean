/-!
Texts as lists of Unicode code points. A text may hold surrogates that stand alone, because an
escape in a definition or a character on the wire can name one; `String` has no room for them. A mark
that is no code point stands for a text that was left out, so that a missing name differs from every
name. String and character literals coerce to texts and code points.
-/
namespace Counterpart

-- Powers and sums of numbers are those of the core library, whatever algebra is loaded beside it.
attribute [instance (high)] instPowNat Zero.ofOfNat0
attribute [default_instance 20000] instPowNat

/-- A Unicode code point, surrogates included, or the mark for what is left out. -/
abbrev CodePoint := Fin 0x110001

instance CodePoint.neZero : NeZero 0x110001 := ⟨by decide⟩

abbrev Text := List CodePoint

namespace CodePoint

def ofChar (c : Char) : CodePoint :=
  ⟨c.toNat, by
    have valid := c.valid
    simp only [UInt32.isValidChar, Nat.isValidChar] at valid
    have same : c.toNat = c.val.toNat := rfl
    omega⟩

instance : Coe Char CodePoint := ⟨ofChar⟩

def ofNat (n : Nat) : CodePoint := ⟨n % 0x110000, by omega⟩

def absent : CodePoint := 0x110000

def isSurrogate (c : CodePoint) : Bool := 0xD800 ≤ c.val && c.val < 0xE000

def toChar (c : CodePoint) : Char :=
  if c.isSurrogate then Char.ofNat 0xFFFD else Char.ofNat c.val

def isAsciiLetter (c : CodePoint) : Bool :=
  (65 ≤ c.val && c.val ≤ 90) || (97 ≤ c.val && c.val ≤ 122)

def isAsciiDigit (c : CodePoint) : Bool := 48 ≤ c.val && c.val ≤ 57

def hexValue? (c : CodePoint) : Option Nat :=
  if c.isAsciiDigit then some (c.val - 48)
  else if 97 ≤ c.val && c.val ≤ 102 then some (c.val - 87)
  else if 65 ≤ c.val && c.val ≤ 70 then some (c.val - 55)
  else none

def hexNumber (digits : List Char) : Nat := digits.foldl (fun n c => n * 16 + ((ofChar c).hexValue?.getD 0)) 0

end CodePoint

namespace Text

def ofString (s : String) : Text := s.toList.map CodePoint.ofChar

instance : Coe String Text := ⟨ofString⟩

def toString (t : Text) : String := String.ofList (t.map CodePoint.toChar)

def isScalar (t : Text) : Bool := t.all fun c => !c.isSurrogate && c ≠ CodePoint.absent

def absent : Text := [CodePoint.absent]

def shown (t : Text) : Text := t.flatMap fun c => if c = CodePoint.absent then "None" else [c]

def ofNat (n : Nat) : Text := (Nat.toDigits 10 n).map CodePoint.ofChar

def ofInt (i : Int) : Text :=
  if i < 0 then '-' :: ofNat i.natAbs else ofNat i.natAbs

def hex (width n : Nat) : Text :=
  let digits := (Nat.toDigits 16 n).map CodePoint.ofChar
  List.replicate (width - digits.length) (CodePoint.ofChar '0') ++ digits

def concat (pieces : List Text) : Text := pieces.flatten

def join (separator : Text) : List Text → Text
  | [] => []
  | [piece] => piece
  | piece :: rest => piece ++ separator ++ join separator rest

def lines (ls : List Text) : Text := (ls.map (· ++ [CodePoint.ofChar '\n'])).flatten

def blocks (groups : List (List Text)) : List Text := groups.flatten

def after? (start t : Text) : Option Text :=
  match start, t with
  | [], t => some t
  | _ :: _, [] => none
  | a :: start, b :: t => if a = b then after? start t else none

def startsWith (start t : Text) : Bool := (after? start t).isSome

def cutLast? (separator : Text) : Text → Option (Text × Text)
  | [] => none
  | c :: t =>
    match cutLast? separator t with
    | some (before, rest) => some (c :: before, rest)
    | none => (after? separator (c :: t)).map fun rest => ([], rest)

def afterLast (separator t : Text) : Text := ((cutLast? separator t).map (·.2)).getD t

def splitAt (mark : CodePoint) : Text → List Text
  | [] => [[]]
  | c :: t =>
    let pieces := splitAt mark t
    if c = mark then [] :: pieces
    else match pieces with
      | piece :: rest => (c :: piece) :: rest
      | [] => [[c]]

def unifyLines : Text → Text
  | [] => []
  | [c] => if c = '\r' then ['\n'] else [c]
  | c :: d :: rest =>
    if c = '\r' then
      if d = '\n' then d :: unifyLines rest
      else '\n' :: unifyLines (d :: rest)
    else c :: unifyLines (d :: rest)

def dotted : Text → Text
  | [] => []
  | [c] => [c]
  | c :: d :: t =>
    if c = ':' && d = ':' then '.' :: dotted t
    else c :: dotted (d :: t)

def doubleQuoted (t : Text) : Text :=
  CodePoint.ofChar '"' :: (t ++ [CodePoint.ofChar '"'])

def before : Text → Text → Bool
  | _, [] => false
  | [], _ :: _ => true
  | a :: s, b :: t => a < b || (a = b && before s t)

end Text

def repeated {α : Type} [BEq α] (names : List α) : List α :=
  names.eraseDups.filter fun name => 1 < names.count name

end Counterpart
