import Counterpart.Text.CharacterName

/-!
Pictures by their names, as they are written between two colons. The table has the pictures in the order of their code
points, each with a name in front of it, in capitals. A sign says how the first code point follows from that of the
picture before: the same, the next one, or one that is so far on. A colon stands before the two letters of a flag. Further
code points follow, with signs for those that join pictures and show them as such, and a tilde if a picture comes in all
tones.
-/
namespace Counterpart.Console

/-- A character of a name. Capitals stand for small letters, and small letters for characters outside of ASCII. -/
def nameLetter (c : Char) : CodePoint :=
  match (" acteioq".toList.zip "_åçãéíô’".toList).lookup c with
  | some other => CodePoint.ofNat other.toNat
  | none => CodePoint.ofNat (if c.isUpper then c.toNat + 32 else c.toNat)

def furtherPoints (c : Char) (p : List Char × Text) : List Char × Text :=
  if c = '<' then ([], 0x200D :: p.2)
  else if c = '|' then ([], 0xFE0F :: p.2)
  else if c = ',' then ([], CodePoint.ofNat (CodePoint.hexNumber p.1) :: p.2)
  else if c = '~' then p
  else (c :: p.1, p.2)

def pictureSigns : List Char := [':', ';', '=', '>']

structure Gallery where
  last : Nat := 0
  shown : List (Text × Text) := []

def Gallery.go (g : Gallery) (entry : List Char) : Gallery :=
  let name := (entry.takeWhile (!pictureSigns.contains ·)).map nameLetter
  match entry.drop name.length with
  | sign :: code =>
    if sign = ':' then { g with shown := (name, code.map fun c => CodePoint.ofNat (c.toNat + 0x1F1A5)) :: g.shown }
    else
      let (digits, further) := code.foldr furtherPoints ([], [])
      let first := if sign = ';' then g.last else if sign = '>' then g.last + 1 else g.last + CodePoint.hexNumber digits
      let picture := CodePoint.ofNat first :: further
      ⟨first, (name, if code.contains '~' then 126 :: picture else picture) :: g.shown⟩
  | [] => g

def pictures (_ : Unit) : List (Text × Text) :=
  ((CharacterName.pieces (· = '@') ((CharacterName.tables ()).getD 1 [])).foldl Gallery.go {}).shown

def tones : List (Text × CodePoint) :=
  [("_light_skin_tone", 0x1F3FB), ("_medium-light_skin_tone", 0x1F3FC), ("_medium_skin_tone", 0x1F3FD),
   ("_medium-dark_skin_tone", 0x1F3FE), ("_dark_skin_tone", 0x1F3FF)]

/-- A picture with a tone, which stands after its first code point and in the place of a mark for pictures. -/
def toned (tone : CodePoint) : Text → Text
  | first :: mark :: rest => if mark.val = 0xFE0F then first :: tone :: rest else first :: tone :: mark :: rest
  | picture => picture ++ [tone]

def entry? (name : Text) : Option Text := ((pictures ()).find? fun (known, _) => known = name).map (·.2)

def picture? (name : Text) : Option Text :=
  match entry? name with
  | some (126 :: picture) => some picture
  | some picture => some picture
  | none => tones.findSome? fun (ending, tone) =>
    if ending.reverse.isPrefixOf name.reverse then
      match entry? (name.take (name.length - ending.length)) with
      | some (126 :: picture) => some (toned tone picture)
      | _ => none
    else none

end Counterpart.Console
