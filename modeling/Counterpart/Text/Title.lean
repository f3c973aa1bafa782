import Counterpart.Text.Lower
import Counterpart.Text.Upper

/-!
Words that start with a capital. A few letters have a form of their own at the start of a word, and a
letter made of two keeps only the first of them large.
-/
namespace Counterpart

namespace CodePoint

/-- The large letters with a small iota under them, each with the one that is written the same. -/
def iotaLetters : List (Nat × Nat) := [(0x1FB3, 0x1FBC), (0x1FC3, 0x1FCC), (0x1FF3, 0x1FFC)]

def looseIotaLetters : List Nat :=
  [0x1FB2, 0x1FB4, 0x1FB7, 0x1FC2, 0x1FC4, 0x1FC7, 0x1FF2, 0x1FF4, 0x1FF7]

def title (c : CodePoint) : Text :=
  let n := c.val
  if 0x1C4 ≤ n && n ≤ 0x1CC then [ofNat ((n - 0x1C4) / 3 * 3 + 0x1C5)]
  else if 0x1F1 ≤ n && n ≤ 0x1F3 then [0x1F2]
  else if 0x10D0 ≤ n && n ≤ 0x10FF then [c]
  else if n = 0x149 then [0x2BC, 0x4E]
  else if 0x1F80 ≤ n && n ≤ 0x1FAF then [ofNat (n ||| 8)]
  else if looseIotaLetters.contains n then c.upper.dropLast ++ [0x345]
  else
    match iotaLetters.find? fun (small, large) => n = small || n = large with
    | some (_, large) => [ofNat large]
    | none =>
      match c.upper with
      | first :: rest => first :: Text.lower rest
      | [] => []

def folded (c : CodePoint) : Text :=
  let n := c.val
  if n = 0x131 then [c]
  else if n = 0x1E9E then [0x73, 0x73]
  else if (0x13A0 ≤ n && n ≤ 0x13FD) || (0xAB70 ≤ n && n ≤ 0xABBF) then c.upper
  else Text.lower c.upper

end CodePoint

namespace Text

/-- Every word with a capital at its start, given what stands before it, last one first. -/
def titleAfter : Text → Text → Text
  | _, [] => []
  | before, c :: rest =>
    let letter := if before.head?.any (·.isCased) then lowerOne before c rest else c.title
    letter ++ titleAfter (c :: before) rest

def titled (t : Text) : Text := titleAfter [] t

def sentence : Text → Text
  | [] => []
  | c :: rest => c.title ++ lowerAfter [c] rest

def folded (t : Text) : Text := t.flatMap CodePoint.folded

/-- Capitals as small letters and the other way round, given what stands before, last one first. -/
def swappedAfter : Text → Text → Text
  | _, [] => []
  | before, c :: rest =>
    (if c.isUpper then lowerOne before c rest else if c.isLower then c.upper else [c]) ++
      swappedAfter (c :: before) rest

def swapped (t : Text) : Text := swappedAfter [] t

/-- Capitals stand at the starts of words only, and there is one. `inWord` tells that a letter stands
before, `found` that there was a capital. -/
def isTitledFrom : Bool → Bool → Text → Bool
  | _, found, [] => found
  | inWord, found, c :: rest =>
    if c.isUpper || c.category = .titleLetter then !inWord && isTitledFrom true true rest
    else if c.isLower then inWord && isTitledFrom true true rest
    else isTitledFrom false found rest

def isTitled (t : Text) : Bool := isTitledFrom false false t

def isUpper (t : Text) : Bool := t.any (·.isUpper) && !t.any fun c => c.isLower || c.category = .titleLetter

def isLower (t : Text) : Bool := t.any (·.isLower) && !t.any fun c => c.isUpper || c.category = .titleLetter

end Text
end Counterpart
