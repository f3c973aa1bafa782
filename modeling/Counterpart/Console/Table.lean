import Counterpart.Console.Highlight
import Counterpart.Console.Markup
import Counterpart.Console.Wrap

/-!
Tables without lines between their cells. A column is as wide as its widest line; the lines of a cell
stand at its top, and a shorter cell is filled up below.
-/
namespace Counterpart.Console

structure Column where
  before : Nat := 0
  after : Nat := 2
  toTheRight : Bool := false
  deriving DecidableEq, Repr

def screenWidth : Nat := 80

def endsLine (c : CodePoint) : Bool :=
  (10 ≤ c.val && c.val ≤ 13) || (28 ≤ c.val && c.val ≤ 30) || c.val == 0x85 || c.val == 0x2028
    || c.val == 0x2029

def measuredLines : Text → List Text
  | [] => [[]]
  | c :: rest =>
    match measuredLines rest with
    | line :: others => if endsLine c then [] :: line :: others else (c :: line) :: others
    | [] => [[c]]

def widestLine (t : Text) : Nat := ((measuredLines t).map Text.width).foldl max 0

namespace Column

def width (c : Column) (room : Nat) (cells : List Text) : Nat :=
  (cells.map fun cell => min room (widestLine cell + c.before + c.after)).foldl max 0

/-- A line cut off at a width or filled up to it. A joiner at the end of a line takes the first space
into it, which is then made up for. -/
def fill (c : Column) (width : Nat) (line : Styled) : Text :=
  let line := shorten width (if c.toTheRight then line.withText (dropBlankEnd line.text) else line)
  let missing := width - line.text.width
  (if c.toTheRight then line.padLeft missing else line.padRight missing).fitted width

def inner (c : Column) (width : Nat) : Nat := width - c.before - c.after

def lines (c : Column) (width : Nat) (cell : Styled) : List Text :=
  let inner := c.inner width
  if inner = 0 then []
  else (wrap false inner cell).map fun line => Text.concat [spaces c.before, c.fill inner line, spaces c.after]

end Column

def rowLines (columns : List (Column × Nat)) (cells : List Styled) : List Text :=
  let blocks := (columns.zip cells).map fun ((column, width), cell) => (width, column.lines width cell)
  let height := (blocks.map fun (_, lines) => lines.length).foldl max 1
  (List.range height).map fun n =>
    Text.concat (blocks.map fun (width, lines) => (lines[n]?).getD (spaces width))

def columnCells (rows : List (List Text)) (n : Nat) : List Text := rows.map fun row => (row[n]?).getD []

/-! ## Room for the columns -/

/-- Takes a total off some widths in equal parts, from those that are marked, and from none more than a
limit. -/
def takeOff (total marked limit : Nat) : List (Nat × Bool) → List Nat
  | [] => []
  | (width, isMarked) :: rest =>
    if isMarked && marked ≠ 0 && limit ≠ 0 then
      let share := min limit (BinaryFormat.roundQuotient total marked)
      (width - share) :: takeOff (total - share) (marked - 1) limit rest
    else width :: takeOff total marked limit rest

/-- Makes the widest columns narrower, down to the next narrower ones and so on, until all fit into a
room. Each step takes something off, so that the sum of the widths bounds their number. -/
def narrowed (room : Nat) : Nat → List Nat → List Nat
  | 0, widths => widths
  | fuel + 1, widths =>
    let excess := widths.sum - room
    let widest := widths.foldl max 0
    let second := (widths.filter (· ≠ widest)).foldl max 0
    if excess = 0 || widest = second then widths
    else
      let marked := widths.map fun w => (w, w == widest)
      narrowed room fuel (takeOff excess (widths.count widest) (min excess (widest - second)) marked)

def columnWidths (columns : List (Column × List Text)) : List Nat :=
  let wanted := columns.map fun (column, cells) => max 1 (column.width screenWidth cells)
  if wanted.sum ≤ screenWidth then wanted
  else
    (columns.zip (narrowed screenWidth wanted.sum wanted)).map fun ((column, cells), room) =>
      column.width room cells

def checkRow (columns : List (Column × Nat)) (row : List Marked) : Except MarkupError Unit :=
  (columns.zip row).forM fun ((column, width), cell) =>
    if column.inner width = 0 then .ok () else cell.checkStyles

/-- The lines of a table of texts with marks. The marks are read column by column, and the styles that
they name are looked up row by row. -/
def table (columns : List Column) (rows : List (List Text)) : Except MarkupError (List Text) := do
  let byColumn ← (List.range columns.length).mapM fun n => (columnCells rows n).mapM Marked.ofText
  let sized := columns.zip (columnWidths (columns.zip (byColumn.map fun cells => cells.map (·.text))))
  let shown := (List.range rows.length).map fun r => byColumn.map fun cells => (cells[r]?).getD {}
  shown.forM (checkRow sized)
  return shown.flatMap fun row => rowLines sized (row.map (·.toStyled))

def paragraph (t : Text) : Except MarkupError (List Text) := do
  let shown ← Marked.ofText t
  shown.checkStyles
  return (wrap true screenWidth shown.toStyled.highlighted).map (·.cropped screenWidth)

end Counterpart.Console
