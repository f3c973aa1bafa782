import Counterpart.Text.Basic
import Counterpart.Text.Runs
import Counterpart.Text.Tables

/-!
How many cells of a terminal a text fills: two for the wide characters of East Asian scripts and for
pictures, none for controls and marks that join the character before them, one for all else. A joiner
takes the character after it into the one before it, and a variation selector makes a picture of a sign
that can be shown as one.
-/
namespace Counterpart

/-- The runs of code points that fill one cell, none, two, and one but two when they are shown as pictures. -/
def cellRuns : Runs Nat := Runs.ofTable id (Tables.named "cells")

def zeroWidthJoiner : CodePoint := 0x200D

def pictureSelector : CodePoint := 0xFE0F

def CodePoint.width (c : CodePoint) : Nat :=
  if 32 ≤ c.val && c.val < 127 then 1
  else
    match cellRuns.at? c.val with
    | some 1 => 0
    | some 2 => 2
    | _ => 1

def CodePoint.isPictorial (c : CodePoint) : Bool := cellRuns.at? c.val = some 3

/-- The number of cells that a text fills after a character, if one can still become a picture. -/
def Text.widthAfter : Option CodePoint → Text → Nat
  | _, [] => 0
  | last?, c :: rest =>
    if c = zeroWidthJoiner then
      match rest with
      | [] => 0
      | _ :: rest => widthAfter last? rest
    else if c = pictureSelector then
      match last? with
      | some last => (if last.isPictorial then 1 else 0) + widthAfter none rest
      | none => widthAfter none rest
    else if c.width = 0 then widthAfter last? rest
    else c.width + widthAfter (some c) rest

def Text.width (t : Text) : Nat := widthAfter none t

/-- A stretch of a text that is not cut, and the cells it fills. -/
structure Cluster where
  text : Text
  width : Nat
  deriving DecidableEq, Repr

/-- The stretches of a text that begins with the end of one, whose last character can still become a
picture. What has been read of that stretch comes last one first. -/
def Text.clustersAfter (read : Text) (width : Nat) (last? : Option CodePoint) : Text → List Cluster
  | [] => [⟨read.reverse, width⟩]
  | c :: rest =>
    if c = zeroWidthJoiner then
      match rest with
      | [] => [⟨(c :: read).reverse, width⟩]
      | d :: rest => clustersAfter (d :: c :: read) width last? rest
    else if c = pictureSelector then
      if last?.any (·.isPictorial) then clustersAfter (c :: read) (width + 1) none rest
      else clustersAfter (c :: read) width last? rest
    else if c.width = 0 then clustersAfter (c :: read) width last? rest
    else ⟨read.reverse, width⟩ :: clustersAfter [c] c.width (some c) rest

def Text.clusters : Text → List Cluster
  | [] => []
  | c :: rest => clustersAfter [c] c.width (if c.width = 0 then none else some c) rest

end Counterpart
