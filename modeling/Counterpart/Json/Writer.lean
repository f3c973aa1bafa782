import Counterpart.Json.Basic

/-!
Writing JSON in ASCII: on one line, or with every item and member on a line of its own.
-/
namespace Counterpart.Json

def unitEscape (unit : Nat) : Text := "\\u" ++ Text.hex 4 unit

/-- One code point inside quotes; beyond ASCII it is escaped, as a pair of units if it needs one. -/
def pointText (c : CodePoint) : Text :=
  if c = '"' then "\\\""
  else if c = '\\' then "\\\\"
  else if 32 ≤ c.val && c.val < 127 then [c]
  else if c.val = 10 then "\\n"
  else if c.val = 13 then "\\r"
  else if c.val = 9 then "\\t"
  else if c.val = 12 then "\\f"
  else if c.val = 8 then "\\b"
  else if c.val < 0x10000 then unitEscape c.val
  else
    unitEscape (0xD800 + (c.val - 0x10000) / 0x400) ++ unitEscape (0xDC00 + (c.val - 0x10000) % 0x400)

def quotedText (t : Text) : Text := "\"" ++ t.flatMap pointText ++ "\""

def floatText (d : Double) : Text :=
  match d.parts with
  | .notANumber => "NaN"
  | .infinite negative => if negative then "-Infinity" else "Infinity"
  | .finite .. => d.text

def scalarText : Json → Text
  | .null => "null"
  | .bool b => if b then "true" else "false"
  | .int i => Text.ofInt i
  | .float d => floatText d
  | .str t => quotedText t
  | .arr _ => "[]"
  | .obj _ => "\x7b\x7d"

mutual
def compact : Json → Text
  | .arr items => "[" ++ Text.join "," (compactItems items) ++ "]"
  | .obj members => "\x7b" ++ Text.join "," (compactMembers members) ++ "\x7d"
  | scalar => scalarText scalar

def compactItems : List Json → List Text
  | [] => []
  | item :: rest => compact item :: compactItems rest

def compactMembers : List (Text × Json) → List Text
  | [] => []
  | (name, value) :: rest => (quotedText name ++ ":" ++ compact value) :: compactMembers rest
end

def lineBreak (level : Nat) : Text :=
  '\n' :: List.replicate (2 * level) ' '

def block (opening closing : Text) (level : Nat) : List Text → Text
  | [] => opening ++ closing
  | pieces =>
    Text.concat [opening, lineBreak (level + 1), Text.join ("," ++ lineBreak (level + 1)) pieces,
      lineBreak level, closing]

mutual
def indentedAt (level : Nat) : Json → Text
  | .arr items => block "[" "]" level (indentedItems level items)
  | .obj members => block "\x7b" "\x7d" level (indentedMembers level members)
  | scalar => scalarText scalar

def indentedItems (level : Nat) : List Json → List Text
  | [] => []
  | item :: rest => indentedAt (level + 1) item :: indentedItems level rest

def indentedMembers (level : Nat) : List (Text × Json) → List Text
  | [] => []
  | (name, value) :: rest =>
    (quotedText name ++ ": " ++ indentedAt (level + 1) value) :: indentedMembers level rest
end

def indented (value : Json) : Text := indentedAt 0 value

end Counterpart.Json
