import Counterpart.Text.Basic
import Counterpart.Text.Runs
import Counterpart.Text.Tables

/-!
How code points stand in a line: the direction that they are written in, whether they are turned around where it is
from right to left, and how broad they are among ideographs.
-/
namespace Counterpart

namespace Direction

def names : List Text :=
  ["", "AL", "AN", "B", "BN", "CS", "EN", "ES", "ET", "FSI", "L", "LRE", "LRI", "LRO", "NSM", "ON", "PDF",
   "PDI", "R", "RLE", "RLI", "RLO", "S", "WS"]

def breadths : List Text := ["A", "F", "H", "N", "Na", "W"]

def runs (_ : Unit) : Runs Nat := Runs.ofTable id (Tables.named "direction")

def turnedRuns (_ : Unit) : Runs Nat := Runs.ofTable id (Tables.named "turned")

def breadthRuns (_ : Unit) : Runs Nat := Runs.ofTable id (Tables.named "breadth")

end Direction

def CodePoint.direction (c : CodePoint) : Text :=
  ((Direction.runs ()).at? c.val).elim [] fun i => (Direction.names[i]?).getD []

def CodePoint.isTurned (c : CodePoint) : Bool := (Direction.turnedRuns ()).at? c.val = some 1

def CodePoint.breadth (c : CodePoint) : Text :=
  ((Direction.breadthRuns ()).at? c.val).elim [] fun i => (Direction.breadths[i]?).getD []

end Counterpart
