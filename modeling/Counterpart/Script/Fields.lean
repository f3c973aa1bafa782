import Counterpart.Script.Token

/-!
The parts of a quotation whose fields are computed. What stands in curly brackets is an expression, which
may be shown in front of its value, converted and set; a doubled bracket stands for itself. The parts are
told in the order in which they stand, up to the first that has no place.
-/
namespace Counterpart.Script

inductive Piece where
  | plain (escaped : Text)
  /-- A field: its expression, what is shown in front of the value, how that is converted, and how it is
  set. -/
  | field (source : Text) (shown? : Option Text) (conversion? : Option CodePoint) (spec? : Option (List Piece))

/-- The parts of a quotation up to what has no place, and what follows them. -/
structure Fields where
  pieces : List Piece := []
  fault? : Option Text := none
  rest : Text := []

namespace Fields

def stop (message : Text) : Fields := { fault? := some message }

def cons (p : Piece) (f : Fields) : Fields := { f with pieces := p :: f.pieces }

def consPlain (t : Text) (f : Fields) : Fields := if t.isEmpty then f else f.cons (.plain t)

def opening : CodePoint := '\x7b'

def ending : CodePoint := '\x7d'

inductive Stop where
  | doubled
  | single
  | bracket
  deriving DecidableEq, Repr

def plainPart (raw nested : Bool) : Nat → Text → Text × Stop × Text
  | 0, t => ([], .bracket, t)
  | _, [] => ([], .bracket, [])
  | fuel + 1, c :: rest =>
    let front (t : Text) (more : Text × Stop × Text) : Text × Stop × Text := (t ++ more.1, more.2)
    let atBracket (before : Text) (c : CodePoint) (rest : Text) : Text × Stop × Text :=
      if c ≠ opening && c ≠ ending then front (before ++ [c]) (plainPart raw nested fuel rest)
      else if nested then (before, .bracket, c :: rest)
      else if rest.head? = some c then (before ++ [c], .doubled, rest.drop 1)
      else if c = ending then (before, .single, c :: rest) else (before, .bracket, c :: rest)
    match rest with
    | e :: rest =>
      if !raw && c = '\\' then
        if e = 'N' then
          let inner := if rest.head? = some opening then (rest.drop 1).takeWhile (· ≠ ending) else []
          let taken := if rest.head? = some opening then inner.length + 2 else 1
          front (c :: e :: rest.take taken) (plainPart raw nested fuel (rest.drop taken))
        else atBracket [c] e rest
      else atBracket [] c (e :: rest)
    | [] => atBracket [] c []

def unmatched (c : CodePoint) : Text := Text.concat ["f-string: unmatched '", [c], "'"]

def unended : Text := "f-string: expecting '\x7d'"

structure Quotes where
  mark : CodePoint
  triple : Bool

def source (opened : List CodePoint) (quotes? : Option Quotes) : Nat → Text → Text × Except Text Text
  | 0, t => ([], .ok t)
  | _, [] =>
    match quotes?, opened with
    | some _, _ => ([], .error "f-string: unterminated string")
    | none, c :: _ => ([], .error (unmatched c))
    | none, [] => ([], .error unended)
  | fuel + 1, c :: rest =>
    let next? := rest.head?
    let go (opened : List CodePoint) (quotes? : Option Quotes) (extra : Nat) : Text × Except Text Text :=
      let (t, after) := source opened quotes? fuel (rest.drop extra)
      (c :: rest.take extra ++ t, after)
    if c = '\\' then ([], .error "f-string expression part cannot include a backslash")
    else
      let isTriple := rest.take 2 == [c, c]
      match quotes? with
      | some q =>
        if c ≠ q.mark then go opened quotes? 0
        else if !q.triple then go opened none 0
        else if isTriple then go opened none 2 else go opened quotes? 0
      | none =>
        let opens : Text := "([\x7b"
        let closes : Text := ")]\x7d"
        let ends : Text := "!:\x7d=><"
        let compares : Text := "!=<>"
        if c = '"' || c = '\'' then go opened (some ⟨c, isTriple⟩) (if isTriple then 2 else 0)
        else if opens.contains c then
          if bracketLimit ≤ opened.length then ([], .error "f-string: too many nested parenthesis")
          else go (c :: opened) none 0
        else if c = '#' then ([], .error "f-string expression part cannot include '#'")
        else if opened.isEmpty && ends.contains c then
          if compares.contains c && next? = some (CodePoint.ofChar '=') then go opened none 1
          else if c = '<' || c = '>' then go opened none 0 else ([], .ok (c :: rest))
        else if closes.contains c then
          match opened with
          | [] => ([], .error (unmatched c))
          | other :: outer =>
            if Scan.closing other = c then go outer none 0
            else ([], .error (Text.concat ["f-string: closing parenthesis '", [c],
              "' does not match opening parenthesis '", [other], "'"]))
        else go opened none 0

def isBlank (c : CodePoint) : Bool := c.val = 32 || (9 ≤ c.val && c.val ≤ 13)

def isIdle (c : CodePoint) : Bool := Scan.isGap c || c = '\n'

def missing : Text → Text
  | [] => unended
  | c :: _ =>
    if c = ending then "f-string: empty expression not allowed"
    else Text.concat ["f-string: expression required before '", [c], "'"]

def shown? (written rest : Text) : Option Text × Text :=
  match Text.after? "=" rest with
  | none => (none, rest)
  | some more =>
    let blanks := more.takeWhile isBlank
    (some (written ++ "=" ++ blanks), more.drop blanks.length)

def conversion? (t : Text) : Except Text (Option CodePoint × Text) :=
  match Text.after? "!" t with
  | none => .ok (none, t)
  | some (c :: rest) =>
    let known : Text := "sra"
    if known.contains c then .ok (some c, rest)
    else .error "f-string: invalid conversion character: expected 's', 'r', or 'a'"
  | some [] => .error unended

def levelLimit : Nat := 2

def partsFrom (raw : Bool) : Nat → Nat → Text → Fields
  | 0, _, _ => stop unended
  | fuel + 1, level, t =>
    match plainPart raw (level != 0) (t.length + 1) t with
    | (plain, .doubled, rest) => (partsFrom raw fuel level rest).consPlain plain
    | (_, .single, _) => stop "f-string: single '\x7d' is not allowed"
    | (plain, .bracket, []) => consPlain plain (if level = 0 then {} else stop unended)
    | (plain, .bracket, c :: rest) =>
      if c = ending then consPlain plain { rest := c :: rest }
      else if levelLimit ≤ level then consPlain plain (stop "f-string: expressions nested too deeply")
      else
        consPlain plain <|
          match source [] none (rest.length + 1) rest with
          | (_, .error message) => stop message
          | (written, .ok rest) =>
            if written.all isIdle then stop (missing rest)
            else
              let (shown?, rest) := shown? written rest
              let alone : Piece := .field written shown? none none
              let finish (spec? : Option (List Piece)) (conversion? : Option CodePoint) (rest : Text) : Fields :=
                match Text.after? "\x7d" rest with
                | some rest => (partsFrom raw fuel level rest).cons (.field written shown? conversion? spec?)
                | none => (stop unended).cons (.field written shown? conversion? spec?)
              match rest, conversion? rest with
              | [], _ => (stop unended).cons alone
              | _, .error message => (stop message).cons alone
              | _, .ok (conversion?, rest) =>
                match Text.after? ":" rest with
                | none => finish none conversion? rest
                | some [] => (stop unended).cons alone
                | some rest =>
                  let setting := partsFrom raw fuel (level + 1) rest
                  match setting.fault? with
                  | some message => (stop message).cons (.field written shown? conversion? (some setting.pieces))
                  | none => finish (some setting.pieces) conversion? setting.rest

def ofBody (raw : Bool) (body : Text) : Fields := partsFrom raw (2 * body.length + 2) 0 body

end Fields
end Counterpart.Script
