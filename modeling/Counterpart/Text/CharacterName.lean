import Counterpart.Text.Basic
import Counterpart.Text.Named
import Counterpart.Text.Packed
import Counterpart.Text.Runs

/-!
Characters by their names. Most names are kept in a table, in the order of the characters. An entry starts with a
sign that says with how many words of the name before it a name starts, and then gives the other words; a plus
stands for the same name with the next number at its end. An entry is for the next character, unless a number
before it says how many are left out. The names of ideographs and Hangul syllables follow from rules.
-/
namespace Counterpart

namespace CharacterName

def pieces (isMark : Char → Bool) : List Char → List (List Char)
  | [] => []
  | c :: rest =>
    if isMark c then pieces isMark rest
    else
      match rest, pieces isMark rest with
      | d :: _, piece :: more => if isMark d then [c] :: piece :: more else (c :: piece) :: more
      | _, more => [c] :: more

abbrev Name := List (List Char)

def wordsOf (t : List Char) : Name := pieces (· = ' ') t

def sharedSigns : List Char := "._:;,=<>|&".toList

/-- The table of names, that of pictures, and further names of characters; a mark stands between them. -/
def tables (_ : Unit) : List (List Char) :=
  ((String.ofList (Packed.unpack 371038 (sharedSigns ++ ['@']) packed)).splitOn "\x01").map String.toList

def nextNumber (digits : List Char) : List Char :=
  let next := Nat.toDigits 10 (digits.foldl (fun n c => n * 10 + (c.toNat - 48)) 0 + 1)
  List.replicate (digits.length - next.length) '0' ++ next

def nextWord (word : List Char) : List Char :=
  let digits := (word.reverse.takeWhile Char.isDigit).reverse
  word.take (word.length - digits.length) ++ nextNumber digits

def nextName (name : Name) : Name :=
  match name.reverse with
  | last :: others => (nextWord last :: others).reverse
  | [] => []

/-- What is known after some entries: the next character, the last name, and what was looked for. -/
structure Progress where
  next : Nat := 0
  last : Name := []
  found? : Option (Nat × Name) := none

def Progress.go (test : Nat → Name → Bool) (p : Progress) : Char × List Char → Progress
  | ('@', digits) => { p with next := p.next + CodePoint.hexNumber digits }
  | (sign, text) =>
    let name := if sign = '+' then nextName p.last else p.last.take (sharedSigns.idxOf sign) ++ wordsOf text
    ⟨p.next + 1, name, if p.found?.isNone && test p.next name then some (p.next, name) else p.found?⟩

def inTable? (test : Nat → Name → Bool) : Option (Nat × Name) :=
  let isSign (c : Char) : Bool := c = '@' || c = '+' || sharedSigns.contains c
  ((Runs.parts isSign ((tables ()).getD 0 [])).foldl (Progress.go test) {}).found?

def alias? (name : String) : Option Nat :=
  (pieces (· = '@') ((tables ()).getD 2 [])).findSome? fun entry =>
    if entry.takeWhile (· ≠ '=') = name.toList then some (CodePoint.hexNumber ((entry.dropWhile (· ≠ '=')).drop 1))
    else none

def afterStart? (start name : String) : Option (List Char) :=
  if start.toList.isPrefixOf name.toList then some (name.toList.drop start.length) else none

/-- Names that end with the number of the character, and the characters that have them. -/
def numbered : List (String × List (Nat × Nat)) :=
  [("CJK COMPATIBILITY IDEOGRAPH-", [(0xF900, 0xFA6D), (0xFA70, 0xFAD9), (0x2F800, 0x2FA1D)]),
   ("NUSHU CHARACTER-", [(0x1B170, 0x1B2FB)]), ("KHITAN SMALL SCRIPT CHARACTER-", [(0x18B00, 0x18CD5)])]

def ideographs : List (Nat × Nat) :=
  [(0x3400, 0x4DBF), (0x4E00, 0x9FFF), (0x20000, 0x2A6DF), (0x2A700, 0x2B738), (0x2B740, 0x2B81D),
   (0x2B820, 0x2CEA1), (0x2CEB0, 0x2EBE0), (0x30000, 0x3134A)]

def isNumber (digits : List Char) : Bool :=
  (digits.length = 4 || digits.length = 5) && digits.all fun c => c.isDigit || ('A' ≤ c && c ≤ 'F')

def numbered? (name : String) : Option Nat :=
  numbered.findSome? fun (start, ranges) =>
    (afterStart? start name).bind fun digits =>
      let n := CodePoint.hexNumber digits
      if isNumber digits && liesIn ranges n && (digits.length = 4 ↔ n < 0x10000) then some n else none

def selector? (name : String) : Option Nat :=
  (afterStart? "VS" name).bind fun digits =>
    match digits with
    | '0' :: _ => none
    | _ =>
      (String.ofList digits).toNat?.bind fun n =>
        if !digits.all Char.isDigit || n = 0 then none
        else if n ≤ 16 then some (0xFE00 + n - 1)
        else if n ≤ 256 then some (0xE0100 + n - 17)
        else none

def initials : List String :=
  ["G", "GG", "N", "D", "DD", "R", "M", "B", "BB", "S", "SS", "", "J", "JJ", "C", "K", "T", "P", "H"]

def medials : List String :=
  ["A", "AE", "YA", "YAE", "EO", "E", "YEO", "YE", "O", "WA", "WAE", "OE", "YO", "U", "WEO", "WE", "WI", "YU",
   "EU", "YI", "I"]

def finals : List String :=
  ["", "G", "GG", "GS", "N", "NJ", "NH", "D", "L", "LG", "LM", "LB", "LS", "LT", "LP", "LH", "M", "B", "BS",
   "S", "SS", "NG", "J", "C", "K", "T", "P", "H"]

def sound? (sounds : List String) (t : List Char) : Option (Nat × List Char) :=
  sounds.zipIdx.foldl (fun best (sound, place) =>
    if sound.toList.isPrefixOf t && best.all (fun (_, rest) => (t.drop sound.length).length < rest.length) then
      some (place, t.drop sound.length)
    else best) none

def syllable? (name : String) : Option Nat := do
  let sounds ← afterStart? "HANGUL SYLLABLE " name
  let (initial, rest) ← sound? initials sounds
  let (medial, rest) ← sound? medials rest
  let (final, rest) ← sound? finals rest
  if rest.isEmpty then some (0xAC00 + (initial * 21 + medial) * 28 + final) else none

def ideograph? (name : String) : Option Nat :=
  (afterStart? "CJK UNIFIED IDEOGRAPH-" name).bind fun digits =>
    if isNumber digits && liesIn ideographs (CodePoint.hexNumber digits) then some (CodePoint.hexNumber digits) else none

def capital (c : Char) : Char := if c.isLower then c.toUpper else c

def find? (name : String) : Option Nat :=
  let capitals := name.map capital
  let target := (capitals.splitOn " ").map String.toList
  ideograph? name <|> syllable? name <|> numbered? capitals <|> selector? capitals <|> alias? capitals <|>
    (inTable? fun _ known => known = target).map (·.1)

def soundAt (sounds : List String) (place : Nat) : String := (sounds[place]?).getD ""

def byRule? (n : Nat) : Option String :=
  let digits := String.ofList ((Nat.toDigits 16 n).map capital)
  if liesIn ideographs n then some ("CJK UNIFIED IDEOGRAPH-" ++ digits)
  else if 0xAC00 ≤ n && n < 0xAC00 + 11172 then
    let index := n - 0xAC00
    some ("HANGUL SYLLABLE " ++ soundAt initials (index / 588) ++ soundAt medials (index % 588 / 28) ++
      soundAt finals (index % 28))
  else (numbered.find? fun (_, ranges) => liesIn ranges n).map fun (start, _) => start ++ digits

def of? (n : Nat) : Option String :=
  byRule? n <|> (inTable? fun code _ => code = n).map fun (_, name) => " ".intercalate (name.map String.ofList)

end CharacterName

def CodePoint.named? (name : Text) : Option CodePoint :=
  if name.isScalar then (CharacterName.find? name.toString).map CodePoint.ofNat else none

def CodePoint.name? (c : CodePoint) : Option Text := (CharacterName.of? c.val).map Text.ofString

end Counterpart
