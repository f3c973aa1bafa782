import Counterpart.Keyed
import Counterpart.Number.Numeral
import Counterpart.Text.Lower

/-!
Styles of a text on a terminal: colours and attributes, of which a name is a list of words. Two names
of one style have one normal form.
-/
namespace Counterpart.Console

def colourNames : List Text := ((Tables.named "colour").splitOn " ").map Text.ofString

def words : Text → List Text
  | [] => []
  | c :: rest =>
    if c.isBlank then words rest
    else
      match rest with
      | [] => [[c]]
      | d :: _ =>
        if d.isBlank then [c] :: words rest
        else
          match words rest with
          | word :: others => (c :: word) :: others
          | [] => [[c]]

def attributes : List (Text × List Text) :=
  [("bold", ["bold", "b"]), ("dim", ["dim", "d"]), ("italic", ["italic", "i"]),
   ("underline", ["underline", "u"]), ("blink", ["blink"]), ("blink2", ["blink2"]),
   ("reverse", ["reverse", "r"]), ("conceal", ["conceal", "c"]), ("strike", ["strike", "s"]),
   ("underline2", ["underline2", "uu"]), ("frame", ["frame"]), ("encircle", ["encircle"]),
   ("overline", ["overline", "o"])]

def attribute? (word : Text) : Option Text :=
  (attributes.find? fun (_, names) => names.contains word).map (·.1)

def between? (start word : Text) : Option Text :=
  (Text.after? start word).bind fun rest =>
    if rest.getLast? = some (CodePoint.ofChar ')') then some rest.dropLast else none

inductive StyleError where
  | unknown
  | noLevel
  | longLevel (digits : Nat)
  deriving DecidableEq, Repr

def StyleError.message : StyleError → Text
  | .unknown => []
  | .noLevel => "invalid literal for int() with base 10: ''"
  | .longLevel digits => Numeral.tooLongMessage digits

def checkLevel (digits : Text) : Except StyleError Bool :=
  match Numeral.readInteger digits with
  | .ok n => .ok (n ≤ 255)
  | .error .malformed => .error .noLevel
  | .error (.tooLong count) => .error (.longLevel count)

def isColour (word : Text) : Except StyleError Bool :=
  let hex := (Text.after? "#" word).any fun digits =>
    digits.length = 6 && digits.all fun c => c.hexValue?.isSome
  let numbered := (between? "color(" word).any fun digits =>
    digits.length ≤ 3 && (Numeral.digits? 10 digits).any (· ≤ 255)
  if word = "default" || hex || numbered || colourNames.contains word then .ok true
  else
    match between? "rgb(" word with
    | none => .ok false
    | some levels =>
      let parts := levels.splitAt ','
      if levels.all (fun c => c.isDigit || c = ',') && parts.length = 3 then
        (parts.mapM checkLevel).map fun fits => fits.all (·)
      else .ok false

structure Style where
  colour? : Option Text := none
  ground? : Option Text := none
  link? : Option Text := none
  marks : List (Text × Bool) := []
  deriving DecidableEq, Repr

def Style.ofWords (style : Style) : List Text → Except StyleError Style
  | [] => .ok style
  | first :: rest =>
    let word := first.lower
    if word = "on" then
      match rest with
      | name :: rest => do
        let colour := Text.lower name
        if ← isColour colour then ofWords { style with ground? := some colour } rest
        else throw .unknown
      | [] => .error .unknown
    else if word = "not" then
      match rest with
      | name :: rest =>
        match attribute? name with
        | some trait => ofWords { style with marks := Keyed.set trait false style.marks } rest
        | none => .error .unknown
      | [] => .error .unknown
    else if word = "link" then
      match rest with
      | target :: rest => ofWords { style with link? := some target } rest
      | [] => .error .unknown
    else
      match attribute? word with
      | some trait => ofWords { style with marks := Keyed.set trait true style.marks } rest
      | none => do
        if ← isColour word then ofWords { style with colour? := some word } rest
        else throw .unknown

def Style.ofText (t : Text) : Except StyleError Style :=
  if t.strip = "none" then .ok {} else Style.ofWords {} (words t)

def Style.text (style : Style) : Text :=
  let marks := attributes.filterMap fun (name, _) =>
    (Keyed.get? name style.marks).map fun isOn => if isOn then name else "not " ++ name
  let all := marks ++ style.colour?.toList ++ (style.ground?.map fun c => Text.concat ["on ", c]).toList ++
    (style.link?.map fun target => Text.concat ["link ", target]).toList
  if all.isEmpty then "none" else Text.join " " all

def normalStyle (name : Text) : Except StyleError Text :=
  match Style.ofText name with
  | .ok style => .ok style.text
  | .error .unknown => .ok (Text.lower name.strip)
  | .error e => .error e

end Counterpart.Console
