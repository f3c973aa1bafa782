import Counterpart.Text.Basic
import Counterpart.Text.Runs

/-!
Tables of code points as they are written down: entries with blanks between them, for rows of numbers that become
others.
-/
namespace Counterpart.Ranges

def entries (table : String) : List (List Char) :=
  let (last, others) := table.toList.foldr (fun c (entry, read) =>
    if c = ' ' || c = '\n' then ([], if entry.isEmpty then read else entry :: read) else (c :: entry, read)) ([], [])
  if last.isEmpty then others else last :: others

def halves (mark : Char) (t : List Char) : List Char × List Char :=
  (t.takeWhile (· ≠ mark), (t.dropWhile (· ≠ mark)).drop 1)

/-- A row after another, which ends at a number: what is written of it is how far on it starts, how many steps it takes,
the step unless that is one, and how far from the row those are that its numbers become. -/
def row (last : Nat) (t : List Char) : Nat × Nat × Nat × Nat :=
  let (place, move) := halves ':' t
  let (gap, more) := halves '+' place
  let (times, step) := halves '/' more
  let low := last + Runs.count gap
  let high := low + (if times.isEmpty then 0 else Runs.count times * Runs.count step)
  let image := match move with
    | '-' :: digits => low - Runs.count digits
    | digits => low + Runs.count digits
  (low, high, Runs.count step, image)

/-- The rows of a table. A row `(low, high, step, image)` takes `low`, `low + step`, … up to `high` to `image`,
`image + step`, … -/
def moved (table : String) : List (Nat × Nat × Nat × Nat) :=
  ((entries table).foldl (fun (last, rows) t => ((row last t).2.1, row last t :: rows)) (0, [])).2.reverse

end Counterpart.Ranges
