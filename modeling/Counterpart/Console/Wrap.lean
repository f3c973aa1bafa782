import Counterpart.Console.Styled

/-!
Laying out a text in lines of a given width. Lines break between words; a word that is wider than a
line is folded, or cut off where a text is not to be folded. Blanks at the end of a line that do not
fit are dropped.
-/
namespace Counterpart.Console

def tabStop : Nat := 8

/-- The parts of a line between its tabs, from a column on, each but the last filled up with spaces to a
stop; a tab is at least one space. -/
def toStops (column : Nat) : List Styled → Styled
  | [] => {}
  | [part] => part
  | part :: rest =>
    let reached := column + part.text.width
    let missing := (tabStop - reached % tabStop) % tabStop
    (part.extend missing).append (toStops (reached + missing) rest)

def expandTabs (line : Styled) : Styled :=
  let tab : CodePoint := '\t'
  match (line.text.splitAt tab).reverse with
  | last :: others@(_ :: _) =>
    let lengths := (others.reverse.map fun part => part.length + 1) ++ [last.length]
    let blank (part : Styled) : Styled := { part with text := part.text.map fun c => if c = tab then 32 else c }
    toStops 0 ((line.cut 0 lengths).map blank)
  | _ => line

/-- A word with the blanks around it: at the start of a line those before it too, and always those
after it. -/
def leadingWord (t : Text) : Text :=
  let blanks := t.takeWhile (·.isBlank)
  let rest := t.drop blanks.length
  let word := rest.takeWhile (!·.isBlank)
  blanks ++ word ++ (rest.drop word.length).takeWhile (·.isBlank)

def wordsOf : Nat → Text → List Text
  | 0, _ => []
  | fuel + 1, t =>
    if t.all (·.isBlank) then []
    else
      let word := leadingWord t
      word :: wordsOf fuel (t.drop word.length)

def chop (width : Nat) (filled : Nat) (taken : Text) : List Cluster → List Text
  | [] => [taken]
  | c :: rest =>
    if width < filled + c.width then taken :: chop width c.width c.text rest
    else chop width (filled + c.width) (taken ++ c.text) rest

def nonempty (line : Text) : List Text := if line.isEmpty then [] else [line]

def fillLines (fold : Bool) (width : Nat) (line : Text) (filled : Nat) : List Text → List Text
  | [] => [line]
  | word :: rest =>
    let size := (dropBlankEnd word).width
    if filled + size ≤ width then fillLines fold width (line ++ word) (filled + word.width) rest
    else if width < size then
      match fold, (chop width 0 [] word.clusters).reverse with
      | true, last :: others =>
        nonempty line ++ others.reverse ++ fillLines fold width last last.width rest
      | _, _ => nonempty line ++ fillLines fold width word word.width rest
    else if filled ≠ 0 && !line.isEmpty then
      line :: fillLines fold width word word.width rest
    else fillLines fold width (line ++ word) filled rest

def dropExcess (width : Nat) (line : Styled) : Styled :=
  let length := line.text.length
  let blanks := (line.text.reverse.takeWhile (·.isBlank)).length
  line.take (length - min blanks (length - width))

def shorten (width : Nat) (line : Styled) : Styled :=
  if width < line.text.width then line.withText (resize (width - 1) line.text ++ [0x2026]) else line

def wrapLine (fold : Bool) (width : Nat) (t : Styled) : List Styled :=
  let line := expandTabs t
  let words := wordsOf line.text.length line.text
  let kept := (words.map List.length).sum
  let lengths := match ((fillLines fold width [] 0 words).map List.length).reverse with
    | last :: others => ((last + (line.text.length - kept)) :: others).reverse
    | [] => []
  let lines := if lengths.length ≤ 1 then [line] else line.cut 0 lengths
  lines.map (dropExcess width)

def splitLines (t : Styled) : List Styled :=
  match t.text.splitAt '\n' with
  | parts@(_ :: _ :: _) =>
    let starts := parts.foldl (fun (found, next) part => (found ++ [(next, part.length)], next + part.length + 1))
      (([], 0) : List (Nat × Nat) × Nat)
    starts.1.map fun (start, length) => t.slice start length
  | _ => [t]

def wrap (fold : Bool) (width : Nat) (t : Styled) : List Styled := (splitLines t).flatMap (wrapLine fold width)

end Counterpart.Console
