import Counterpart.Script.Package

/-!
The grammar of expressions, with the rules that tell what is wrong with a text that is none. A rule is a
list of alternatives that are tried in order, and the first that fits counts. Each alternative is a line of
items: quoted words and marks, the classes of tokens in capitals, and names of other rules. An item may be
followed by `?` (it may be left out), `*` (any number), `+` (at least one) or `,` (at least one, with commas
between), and may follow `&` (it has to come next, but is not taken) or `!` (it must not come next). After
`~` no other alternative is tried. What stands behind ` = ` is what the alternative makes of its items: a
number picks one of them, `!` says that the text is wrong and how, `?` asks for a look at the items, and all
else is what the expression is called. An alternative that is nothing but a rule whose name starts with
`wrong` is tried only where a text has turned out to be no expression.
-/
namespace Counterpart.Script.Grammar

inductive Pattern where
  | exactly (t : Text)
  | name
  | softWord
  | number
  | quotation
  | newline
  | finish
  | rule (index : Nat)
  | group (options : List (List Pattern))
  | optional (p : Pattern)
  | many (least : Nat) (p : Pattern)
  | listed (p : Pattern)
  | ahead (p : Pattern)
  | unless (p : Pattern)
  | commit

inductive Outcome where
  | all
  | item (n : Nat)
  | shape (kind : Text)
  | wrong (message : Text)
  | look (question : Text)

structure Alternative where
  items : List Pattern
  outcome : Outcome
  explains : Bool

structure Rule where
  name : Text
  isKept : Bool
  growsLeft : Bool
  isSilent : Bool
  alternatives : List Alternative

namespace Pattern

def followed (p : Pattern) (mark : Text) : Pattern :=
  if mark = "?" then .optional p
  else if mark = "*" then .many 0 p
  else if mark = "+" then .many 1 p
  else if mark = "," then .listed p else p

def ofWord (names : List Text) (t : Text) : Pattern :=
  let quote : CodePoint := '\''
  let marks : Text := "?*+,"
  let classes : List (Text × Pattern) := [("NAME", .name), ("SOFT", .softWord), ("NUMBER", .number),
    ("STRING", .quotation), ("NEWLINE", .newline), ("END", .finish)]
  if t = "~" then .commit
  else if t.head? = some quote then
    let body := ((t.drop 1).reverse.dropWhile (· ≠ quote)).reverse
    followed (.exactly body.dropLast) (t.drop (body.length + 1))
  else
    let isMarked := t.getLast?.any marks.contains
    let bare := if isMarked then t.dropLast else t
    let found := (classes.find? (·.1 = bare)).map (·.2)
    followed (found.getD (.rule (names.idxOf bare))) (if isMarked then t.drop bare.length else [])

/-- The alternatives of a group up to its end, and the words that follow. `sofar` holds the items of the
alternative that is being read. -/
def ofWords (names : List Text) : Nat → List Pattern → List Text → List (List Pattern) × List Text
  | 0, sofar, words => ([sofar], words)
  | _, sofar, [] => ([sofar], [])
  | fuel + 1, sofar, w :: words =>
    let (front, bare) : (Pattern → Pattern) × Text := match Text.after? "!" w, Text.after? "&" w with
      | some rest, _ => (.unless, rest)
      | _, some rest => (.ahead, rest)
      | none, none => (id, w)
    if bare = "(" then
      let (options, rest) := ofWords names fuel [] words
      match rest with
      | closing :: rest => ofWords names fuel (sofar ++ [front (followed (.group options) (closing.drop 1))]) rest
      | [] => ([sofar], [])
    else if Text.startsWith ")" bare then ([sofar], bare :: words)
    else if bare = "|" then
      let (options, rest) := ofWords names fuel [] words
      (sofar :: options, rest)
    else ofWords names fuel (sofar ++ [front (ofWord names bare)]) words

end Pattern

def Outcome.ofText (t : Text) : Outcome :=
  match Text.after? "!" t, Text.after? "?" t with
  | some message, _ => .wrong message
  | _, some question => .look question
  | none, none =>
    match t with
    | [c] => if c.isAsciiDigit then .item (c.val - 48) else .shape t
    | _ => .shape t

def cutOutcome : Text → Text × Outcome
  | [] => ([], .all)
  | c :: rest =>
    match Text.after? " = " (c :: rest) with
    | some outcome => ([], .ofText outcome)
    | none =>
      let (items, outcome) := cutOutcome rest
      (c :: items, outcome)

def isWrongName (t : Text) : Bool := Text.startsWith "wrong" t

def Alternative.ofLine (names : List Text) (line : Text) : Alternative :=
  let (written, outcome) := cutOutcome (line.drop 1)
  let (options, _) := Pattern.ofWords names (written.length + 1) [] (wordList written)
  let items := options.flatten
  let explains := match items with
    | [.rule i] => names[i]?.any isWrongName
    | _ => false
  { items, outcome, explains }

def rulesOf (names : List Text) : List Rule → List Text → List Rule
  | rules, [] => rules
  | rules, line :: lines =>
    if Text.startsWith " " line then
      match rules with
      | [] => rulesOf names [] lines
      | r :: others =>
        rulesOf names ({ r with alternatives := r.alternatives ++ [.ofLine names line] } :: others) lines
    else
      let words := wordList line
      let r : Rule := { name := words.headD [], isKept := words.contains "kept", growsLeft := words.contains "left",
                        isSilent := words.contains "silent", alternatives := [] }
      rulesOf names (r :: rules) lines

def expressionRules (_ : Unit) : Array Rule :=
  let lines := (((packageTexts ()).getLastD "").splitOn "\n").map Text.ofString
  let names := (lines.filter fun line => !Text.startsWith " " line).map fun line => (wordList line).headD []
  (rulesOf names [] lines).reverse.toArray

end Counterpart.Script.Grammar
