import Counterpart.Text.Blank
import Counterpart.Text.Width

/-!
Texts with stretches that have a style of their own. A terminal gets a line in pieces that begin and end where
stretches do, and a line is as wide as its pieces together. What joins characters across the border of two pieces
does not join them there, so that this width may differ from that of the text.
-/
namespace Counterpart.Console

def spaces (count : Nat) : Text := List.replicate count ' '

def dropBlankEnd (t : Text) : Text := (t.reverse.dropWhile (·.isBlank)).reverse

def cropClusters (width : Nat) : List Cluster → Text
  | [] => []
  | c :: rest =>
    if width = 0 then []
    else if c.width ≤ width then c.text ++ cropClusters (width - c.width) rest
    else spaces 1

def crop (width : Nat) (t : Text) : Text :=
  if t.width ≤ width then t else cropClusters width t.clusters

def resize (width : Nat) (t : Text) : Text :=
  let t := crop width t
  t ++ spaces (width - t.width)

structure Stretch where
  start : Nat
  stop : Nat
  deriving DecidableEq, Repr

namespace Stretch

def shift (count : Nat) (s : Stretch) : Stretch := ⟨s.start + count, s.stop + count⟩

def within? (start length : Nat) (s : Stretch) : Option Stretch :=
  let part : Stretch := ⟨s.start - start, min (s.stop - start) length⟩
  if part.start < part.stop then some part else none

def upTo? (length : Nat) (s : Stretch) : Option Stretch :=
  if s.start < length then some ⟨s.start, min s.stop length⟩ else none

end Stretch

structure Styled where
  text : Text := []
  stretches : List Stretch := []
  deriving DecidableEq, Repr

namespace Styled

def slice (start length : Nat) (s : Styled) : Styled :=
  ⟨(s.text.drop start).take length, s.stretches.filterMap (·.within? start length)⟩

def take (length : Nat) (s : Styled) : Styled :=
  if s.text.length ≤ length then s else ⟨s.text.take length, s.stretches.filterMap (·.upTo? length)⟩

def withText (t : Text) (s : Styled) : Styled :=
  ⟨t, if t.length < s.text.length then s.stretches.filterMap (·.upTo? t.length) else s.stretches⟩

def append (s t : Styled) : Styled :=
  ⟨s.text ++ t.text, s.stretches ++ t.stretches.map (·.shift s.text.length)⟩

def cut (start : Nat) (s : Styled) : List Nat → List Styled
  | [] => []
  | length :: rest => s.slice start length :: s.cut (start + length) rest

def extend (count : Nat) (s : Styled) : Styled :=
  ⟨s.text ++ spaces count,
   s.stretches.map fun x => if s.text.length ≤ x.stop then { x with stop := x.stop + count } else x⟩

def padLeft (count : Nat) (s : Styled) : Styled := ⟨spaces count ++ s.text, s.stretches.map (·.shift count)⟩

def padRight (count : Nat) (s : Styled) : Styled := { s with text := s.text ++ spaces count }

def isBorder (s : Styled) (position : Nat) : Bool :=
  s.stretches.any fun x => x.start = position || x.stop = position

def piecesFrom (s : Styled) (position : Nat) : Text → List Text
  | [] => []
  | [c] => [[c]]
  | c :: rest =>
    match piecesFrom s (position + 1) rest with
    | piece :: others => if s.isBorder (position + 1) then [c] :: piece :: others else (c :: piece) :: others
    | [] => [[c]]

def pieces (s : Styled) : List Text := s.piecesFrom 0 s.text

end Styled

def cropPieces (width : Nat) : List Text → Text
  | [] => []
  | piece :: rest => if piece.width < width then piece ++ cropPieces (width - piece.width) rest else resize width piece

def piecesWidth (pieces : List Text) : Nat := (pieces.map Text.width).sum

def Styled.cropped (width : Nat) (s : Styled) : Text :=
  if piecesWidth s.pieces ≤ width then s.text else cropPieces width s.pieces

def Styled.fitted (width : Nat) (s : Styled) : Text :=
  s.cropped width ++ spaces (width - piecesWidth s.pieces)

end Counterpart.Console
