import Counterpart.Text.Printable
import Counterpart.Text.Units

/-!
Quoted forms of texts and bytes. A text is written between single quotes, or between double quotes
when it holds a single quote and no double quote; what cannot be shown is escaped.
-/
namespace Counterpart.Quoted

def escaped (t : Text) : Text := '\\' :: t

def markFor (t : Text) : CodePoint :=
  if t.contains '\'' && !t.contains '"' then
    '"'
  else '\''

def shortEscape? (mark c : CodePoint) : Option Text :=
  if c = mark || c = '\\' then some (escaped [c])
  else if c = '\t' then some (escaped "t")
  else if c = '\n' then some (escaped "n")
  else if c = '\r' then some (escaped "r")
  else none

def point (mark c : CodePoint) : Text :=
  match shortEscape? mark c with
  | some t => t
  | none =>
    if c.isPrintable then [c]
    else if c.val < 0x100 then escaped ("x" ++ Text.hex 2 c.val)
    else if c.val < 0x10000 then escaped ("u" ++ Text.hex 4 c.val)
    else escaped ("U" ++ Text.hex 8 c.val)

def text (t : Text) : Text :=
  let mark := markFor t
  mark :: (t.flatMap (point mark) ++ [mark])

def byte (mark : CodePoint) (b : UInt8) : Text :=
  let c := CodePoint.ofNat b.toNat
  match shortEscape? mark c with
  | some t => t
  | none => if 32 ≤ c.val && c.val < 127 then [c] else escaped ("x" ++ Text.hex 2 c.val)

def bytes (data : Bytes) : Text :=
  let mark := markFor (data.map fun b => CodePoint.ofNat b.toNat)
  'b' :: mark :: (data.flatMap (byte mark) ++ [mark])

def tuple : List Text → Text
  | [] => "()"
  | [one] => "(" ++ one ++ ",)"
  | many => "(" ++ Text.join ", " many ++ ")"

end Counterpart.Quoted
