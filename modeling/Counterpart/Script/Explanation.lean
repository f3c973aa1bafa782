import Std.Data.HashMap
import Counterpart.Script.Grammar

/-!
What is wrong with a text that is no expression. The grammar is tried twice: first as it is, then with the
rules that look for mistakes, of which the first that fits is told. A quotation is resolved where it is
read, and an expression in one of its fields is told about in the same way. A mistake among the tokens
goes before one in their order, wherever it stands.
-/
namespace Counterpart.Script.Grammar

inductive Node where
  | nothing
  | token (t : Text)
  | quoted (marks : QuoteMarks) (body : Text)
  | list (nodes : List Node)
  | shaped (kind : Text) (parts : List Node)

namespace Node

def kind : Node → Text
  | .token t => t
  | .shaped k _ => k
  | _ => []

def name? : Node → Option Text
  | .token t => some t
  | .shaped k [.token t] => if k = "name" then some t else none
  | _ => none

def isCommand (n : Node) : Bool := n.name?.any fun (t : Text) => t = "print" || t = "exec"

def flat : Nat → Node → List Node
  | fuel + 1, .list nodes => nodes.flatMap (flat fuel)
  | _, n => [n]

/-- What is given to a call: the values without a name, whether there are named ones, and whether all names
of a value are given. -/
def given : Node → Nat × Bool
  | .shaped _ (.list first :: rest) =>
    let others := (Node.list (if rest.isEmpty then first else rest)).flat 8
    let starred := others.filter fun n => n.kind = Text.ofString "starred"
    let own := if rest.isEmpty then 0 else first.length
    (own + starred.length, others.any fun n => n.kind = Text.ofString "all keywords")
  | _ => (0, false)

def unassignable? : Nat → Node → Option Node
  | 0, _ => none
  | fuel + 1, n =>
    match n with
    | .shaped k parts =>
      if k = "name" || k = "attribute" || k = "subscript" then none
      else if k = "list" || k = "tuple" then
        ((Node.list parts).flat 8).findSome? fun part =>
          match part with
          | .shaped .. => unassignable? fuel part
          | _ => none
      else if k = "starred" then (parts[1]?).bind (unassignable? fuel)
      else if k = "comparison" then
        match parts with
        | [left, .list (first :: _)] => if first.kind = "in" then unassignable? fuel left else none
        | _ => none
      else some n
    | _ => none

end Node

structure Attempt where
  place : Nat := 0
  reached : Nat := 0
  explains : Bool := false
  found : Std.HashMap (Nat × Nat) (Option Node × Nat) := {}

abbrev Trial := EStateM Text Attempt

structure Trying where
  rules : Array Rule
  tokens : Array Token
  early : Text
  front : Text
  quotesFault? : List (QuoteMarks × Text) → Option Text

namespace Trying

variable (t : Trying)

def wrong {α : Type} (message : Text) : Trial α := throw (t.front ++ message)

def back (place : Nat) : Trial Unit := modify fun a => { a with place }

def accept (node? : Lexeme → Option Node) : Trial (Option Node) := do
  let place := (← get).place
  let some token := t.tokens[place]? | t.wrong t.early
  modify fun a => { a with reached := max a.reached (place + 1) }
  let some n := node? token.lexeme | return none
  back (place + 1)
  return some n

def softWords : List Text := ["_", "case", "match"]

def exactly (wanted : Text) : Lexeme → Option Node
  | .word w => if w = wanted then some (.token w) else none
  | .mark m => if m = wanted then some (.token m) else none
  | _ => none

def single (p : Pattern) (l : Lexeme) : Option Node :=
  match p, l with
  | .exactly wanted, l => exactly wanted l
  | .name, .name n => some (.token n)
  | .softWord, .name n => if softWords.any (Text.startsWith n) then some (.token n) else none
  | .number, .number _ => some .nothing
  | .quotation, .quotation marks body => some (.quoted marks body)
  | .newline, .newline => some .nothing
  | .finish, .finish => some .nothing
  | _, _ => none

def inOrder (run : Pattern → Trial (Option Node)) : List Pattern → Trial (Option (List Node) × Bool)
  | [] => return (some [], false)
  | .commit :: items => do return ((← inOrder run items).1, true)
  | p :: items => do
    let some n ← run p | return (none, false)
    let (nodes?, committed) ← inOrder run items
    return (nodes?.map (n :: ·), committed)

def joined : List Node → Node
  | [n] => n
  | nodes => .list nodes

def oneOf {α : Type} (run : Pattern → Trial (Option Node)) (start : Nat) (items : α → List Pattern)
    (made : α → List Node → Trial (Option Node)) : List α → Trial (Option Node)
  | [] => do
    back start
    return none
  | a :: options => do
    back start
    match ← inOrder run (items a) with
    | (some nodes, _) => made a nodes
    | (none, true) =>
      back start
      return none
    | (none, false) => oneOf run start items made options

def again (item : Trial (Option Node)) : Nat → Trial (List Node)
  | 0 => return []
  | fuel + 1 => do
    let start := (← get).place
    if let some n ← item then return n :: (← again item fuel)
    back start
    return []

def filled (nodes : List Node) : Text → Text
  | [] => []
  | [c] => [c]
  | c :: d :: rest =>
    if c = '%' && d.isAsciiDigit then ((nodes[d.val - 49]?).elim [] Node.kind) ++ filled nodes rest
    else c :: filled nodes (d :: rest)

def look (question : Text) (nodes : List Node) : Trial (Option Node) := do
  match nodes with
  | [name, first, target] =>
    if question = "comma" then
      let depth := (t.tokens[(← get).place - 1]?).elim 0 (·.depth)
      if first.isCommand || depth = 0 then return none
      t.wrong "invalid syntax. Perhaps you forgot a comma?"
    else if question = "command" then
      if name.isCommand then
        t.wrong (Text.concat ["Missing parentheses in call to '", name.kind, "'. Did you mean ", name.kind, "(...)?"])
      else return none
    else if question = "target" then
      let some n := target.unassignable? (t.tokens.size + 1) | return none
      t.wrong ("cannot assign to " ++ n.kind)
    else
      t.wrong (if name.given.2 then "positional argument follows keyword argument unpacking"
        else "positional argument follows keyword argument")
  | [values, _] =>
    if values.given.1 ≤ 1 then return none else t.wrong "Generator expression must be parenthesized"
  | [.list quotes] =>
    let written := quotes.filterMap fun n => match n with
      | .quoted marks body => some (marks, body)
      | _ => none
    match t.quotesFault? written with
    | some message => throw message
    | none =>
      let isFormatted := written.any fun (marks, _) => marks.formatted
      return some (.shaped (if isFormatted then "f-string expression" else "literal") [])
  | _ => return none

def outcome (nodes : List Node) : Outcome → Trial (Option Node)
  | .all => return some (joined nodes)
  | .item n => return some ((nodes[n - 1]?).getD .nothing)
  | .shape kind => return some (.shaped kind nodes)
  | .wrong message => t.wrong (filled nodes message)
  | .look question => t.look question nodes

def alternatives (run : Pattern → Trial (Option Node)) (start : Nat) (as : List Alternative) :
    Trial (Option Node) := do
  let explains := (← get).explains
  oneOf run start Alternative.items (fun a nodes => t.outcome nodes a.outcome) (as.filter fun a => explains || !a.explains)

def keep (index start : Nat) (result : Option Node) : Trial Unit :=
  modify fun a => { a with found := a.found.insert (index, start) (result, a.place) }

def grow (body : Trial (Option Node)) (index start : Nat) : Nat → Option Node → Nat → Trial (Option Node)
  | 0, sofar, _ => return sofar
  | fuel + 1, sofar, stop => do
    back stop
    keep index start sofar
    back start
    let next? ← body
    let place := (← get).place
    if next?.isSome && stop < place then grow body index start fuel next? place
    else
      back stop
      return sofar

def byRule (run : Pattern → Trial (Option Node)) (index : Nat) : Trial (Option Node) := do
  let some r := t.rules[index]? | return none
  let a ← get
  let start := a.place
  match if r.isKept || r.growsLeft then a.found[(index, start)]? else none with
  | some (result, stop) =>
    back stop
    return result
  | none =>
    let body := t.alternatives run start r.alternatives
    if r.growsLeft then grow body index start (t.tokens.size + 1) none start
    else
      if r.isSilent then modify fun a => { a with explains := false }
      let result ← body
      if r.isSilent then modify fun b => { b with explains := a.explains }
      if r.isKept then keep index start result
      return result

def run : Nat → Pattern → Trial (Option Node)
  | 0, _ => t.wrong "too many nested parentheses"
  | fuel + 1, p => do
    let start := (← get).place
    match p with
    | .rule index => t.byRule (run fuel) index
    | .group options => oneOf (run fuel) start id (fun _ nodes => return some (joined nodes)) options
    | .optional p =>
      if let some n ← run fuel p then return some n
      back start
      return some .nothing
    | .many least p =>
      let nodes ← again (run fuel p) (t.tokens.size + 1)
      return if nodes.length < least then none else some (.list nodes)
    | .listed p =>
      let some first ← run fuel p | return none
      let more ← again (do
        match ← t.accept (exactly ",") with
        | some _ => run fuel p
        | none => return none) (t.tokens.size + 1)
      return some (.list (first :: more))
    | .ahead p =>
      let found ← run fuel p
      back start
      return found.map fun _ => .nothing
    | .unless p =>
      let found ← run fuel p
      back start
      return if found.isSome then none else some .nothing
    | .commit => return some .nothing
    | p => t.accept (single p)

end Trying

/-- What is wrong with quotations side by side: their escapes, their kinds, and their fields, one after
another. -/
def quotesFault? (fieldFault? : Text → Option Text) (front : Text) :
    Option Bool → List (QuoteMarks × Text) → Option Text
  | _, [] => none
  | before?, (marks, body) :: more =>
    let said (message : Text) : Option Text := some (front ++ message)
    let escapes (t : Text) : Option Text :=
      if marks.raw then none else (Literal.unescapeFault? marks.inBytes 0 t).bind said
    let own? : Option Text :=
      if marks.formatted then none
      else if marks.inBytes && body.any (128 ≤ ·.val) then said "bytes can only contain ASCII literal characters"
      else escapes body
    let rec pieces : Nat → List Piece → Option Text
      | 0, _ => none
      | _, [] => none
      | fuel + 1, .plain escaped :: more => (escapes escaped).or (pieces fuel more)
      | fuel + 1, .field source _ _ spec? :: more =>
        ((fieldFault? source).or (spec?.bind (pieces fuel))).or (pieces fuel more)
    let fields? : Option Text :=
      if marks.formatted then
        let fields := Fields.ofBody marks.raw body
        (pieces (body.length + 1) fields.pieces).or (fields.fault?.bind said)
      else none
    let mixed? : Option Text :=
      if before?.any (· != marks.inBytes) then said "cannot mix bytes and nonbytes literals" else none
    ((own?.or mixed?).or fields?).or (quotesFault? fieldFault? front (some marks.inBytes) more)

def misplaced? (last? : Option Token) : Option Text :=
  match last? with
  | some ⟨.indent, _, _⟩ => some "unexpected indent"
  | some ⟨.dedent, _, _⟩ => some "unexpected unindent"
  | _ => none

def faultIn (rules : Array Rule) (start : Nat) (front : Text) (fieldFault? : Text → Option Text) (source : Text) :
    Option Text :=
  let ts := Tokens.ofText source
  let t : Trying := { rules, tokens := ts.tokens.toArray, front,
                      early := ts.error?.elim [] (·.1.message),
                      quotesFault? := quotesFault? fieldFault? front none }
  let fuel := 64 * (t.tokens.size + 2)
  let told (message : Text) (reached : Nat) : Text :=
    match ts.error? with
    | some (e, .always) => e.message
    | some (e, .after line) => if (t.tokens[reached - 1]?).any (line < ·.line) then front ++ e.message else message
    | _ => message
  let said (message : Text) (reached : Nat) : Text :=
    if ts.endsInToken && reached = t.tokens.size then message else told message reached
  match t.run fuel (.rule start) {} with
  | .error message a => some (said message a.reached)
  | .ok (some _) _ => none
  | .ok none a =>
    match t.run fuel (.rule start) { reached := a.reached, explains := true } with
    | .error message b => some (said message b.reached)
    | .ok _ b =>
      match misplaced? t.tokens[a.reached - 1]? with
      | some message => some (front ++ message)
      | none => some (told (front ++ ReadError.plain.message) b.reached)

def fieldFault? (rules : Array Rule) : Nat → Text → Option Text
  | 0, _ => none
  | fuel + 1, source => faultIn rules 1 "f-string: " (fieldFault? rules fuel) ("(" ++ source ++ ")")

def expressionFault? (source : Text) : Option Text :=
  let rules := expressionRules ()
  faultIn rules 0 [] (fieldFault? rules source.length) source

end Counterpart.Script.Grammar
