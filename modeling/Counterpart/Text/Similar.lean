import Counterpart.Text.Basic

/-!
How alike two texts are. Their common part is the longest run that both have, together with the common
parts of what stands before it and of what stands after it.
-/
namespace Counterpart.Text

def commonStart : Text → Text → Nat
  | a :: s, b :: t => if a = b then commonStart s t + 1 else 0
  | _, _ => 0

/-- A run that two texts have in common: where it begins in each, and how long it is. -/
structure Run where
  left : Nat
  right : Nat
  size : Nat
  deriving DecidableEq, Repr

/-- The longest run in common: of several the one that begins first in the first text, and of those
the one that begins first in the second. -/
def longestRun (s t : Text) : Run :=
  let starts := (List.range s.length).flatMap fun i => (List.range t.length).map fun j => (i, j)
  starts.foldl (fun best (i, j) =>
    let size := commonStart (s.drop i) (t.drop j)
    if best.size < size then ⟨i, j, size⟩ else best) ⟨0, 0, 0⟩

/-- The size of the common part of two texts. The fuel bounds the number of runs in a row. -/
def commonSize : Nat → Text → Text → Nat
  | 0, _, _ => 0
  | fuel + 1, s, t =>
    let run := longestRun s t
    if run.size = 0 then 0
    else
      commonSize fuel (s.take run.left) (t.take run.right) + run.size +
        commonSize fuel (s.drop (run.left + run.size)) (t.drop (run.right + run.size))

/-- Two texts are alike when their common parts make up at least three fifths of both. -/
def isLike (s t : Text) : Bool := 3 * (s.length + t.length) ≤ 10 * commonSize (s.length + 1) s t

/-- How alike two texts are, to be compared for the same second text: the common part and the length. -/
def likeness (s t : Text) : Nat × Nat := (2 * commonSize (s.length + 1) s t, s.length + t.length)

def likenessBefore (a b : Nat × Nat) : Bool := b.1 * a.2 < a.1 * b.2

/-- The three of some texts that are most like a given one, in the order of their code points. -/
def suggestions (known : List Text) (t : Text) : List Text :=
  let alike := (known.filter fun k => k.isLike t).mergeSort fun a b =>
    let x := a.likeness t
    let y := b.likeness t
    likenessBefore x y || (!likenessBefore y x && !Text.before a b)
  (alike.take 3).mergeSort fun a b => !Text.before b a

end Counterpart.Text
