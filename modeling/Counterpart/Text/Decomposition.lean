import Counterpart.Text.Case

/-!
What code points are made of: a letter and a mark, several letters, or one that only looks different. The marks
have classes, which say where they stand at a letter.
-/
namespace Counterpart

structure Decomposition where
  /-- How it differs from what it is made of; zero if not at all. -/
  style : Nat := 0
  parts : List Nat := []
  deriving DecidableEq, Repr

namespace Decomposition

def styles : List Text :=
  ["", "<circle>", "<compat>", "<final>", "<font>", "<fraction>", "<initial>", "<isolated>", "<medial>",
   "<narrow>", "<noBreak>", "<small>", "<square>", "<sub>", "<super>", "<vertical>", "<wide>"]

def classNumbers : List Nat :=
  [0, 1] ++ (List.range 31).map (· + 6) ++
    [84, 91, 103, 107, 118, 122, 129, 130, 132, 202, 214, 216, 218, 220, 222, 224, 226, 228, 230, 232, 233, 234, 240]

def pieces (t : List Char) : List (List Char) :=
  let (first, others) := t.foldr (fun c (piece, read) => if c = '-' then ([], piece :: read) else (c :: piece, read))
    (([], []) : List Char × List (List Char))
  first :: others

def next (d : Decomposition) : Decomposition :=
  match d.parts.reverse with
  | last :: others => { d with parts := ((last + 1) :: others).reverse }
  | [] => d

structure Progress where
  code : Nat := 0
  last : Decomposition := {}
  read : Array (Nat × Decomposition) := #[]

/-- Goes on by an entry of the table. A letter stands for a style, the next after another starts where a number after a
sign says, and a plus takes the last part one further on. -/
def Progress.go (p : Progress) : Char × List Char → Progress
  | ('@', digits) => { p with code := p.code + CodePoint.hexNumber digits }
  | (sign, text) =>
    let d := if sign = '+' then p.last.next else ⟨sign.toNat - 71, (pieces text).map CodePoint.hexNumber⟩
    ⟨p.code + 1, d, p.read.push (p.code, d)⟩

def all : Runs Decomposition :=
  let isSign (c : Char) : Bool := c = '@' || c = '+' || ('G' ≤ c && c ≤ 'Z')
  ((Runs.parts isSign (Tables.named "decomposition").toList).foldl Progress.go {}).read

def of? (n : Nat) : Option Decomposition :=
  match all[Runs.place all n 0 all.size]? with
  | some (code, d) => if code = n then some d else none
  | none => none

def classes : Runs Nat := Runs.ofTable (fun n => (classNumbers[n]?).getD 0) (Tables.named "class")

def classOf (n : Nat) : Nat := (classes.at? n).getD 0

def unjoined : List (Nat × Nat) :=
  [(0x958, 0x95F), (0x9DC, 0x9DD), (0x9DF, 0x9DF), (0xA33, 0xA33), (0xA36, 0xA36), (0xA59, 0xA5B),
   (0xA5E, 0xA5E), (0xB5C, 0xB5D), (0xF43, 0xF43), (0xF4D, 0xF4D), (0xF52, 0xF52), (0xF57, 0xF57),
   (0xF5C, 0xF5C), (0xF69, 0xF69), (0xF76, 0xF76), (0xF78, 0xF78), (0xF93, 0xF93), (0xF9D, 0xF9D),
   (0xFA2, 0xFA2), (0xFA7, 0xFA7), (0xFAC, 0xFAC), (0xFB9, 0xFB9), (0x2ADC, 0x2ADC), (0xFB1D, 0xFB1D),
   (0xFB1F, 0xFB1F), (0xFB2A, 0xFB36), (0xFB38, 0xFB3C), (0xFB3E, 0xFB3E), (0xFB40, 0xFB41),
   (0xFB43, 0xFB44), (0xFB46, 0xFB4E), (0x1D15E, 0x1D164), (0x1D1BB, 0x1D1C0)]

def compositions : Array ((Nat × Nat) × Nat) :=
  all.filterMap fun (code, d) =>
    match d.style, d.parts with
    | 0, [a, b] =>
      if classOf code = 0 && classOf a = 0 && !liesIn unjoined code then some ((a, b), code) else none
    | _, _ => none

end Decomposition
end Counterpart
