import Counterpart.Literal.Number
import Counterpart.Literal.Quotation
import Counterpart.Text.Name
import Counterpart.Text.Normal
import Counterpart.Text.Upper

/-!
The words and marks of a module, and how its lines nest. Lines that are indented alike belong together;
inside brackets lines may end anywhere, and comments mean nothing.
-/
namespace Counterpart.Script

variable (source t : Text) (c : CodePoint)

inductive ReadError where
  | grammar (message : Text)
  | indentation (message : Text)
  | tabs
  | exhausted
  | zero
  deriving DecidableEq, Repr

def ReadError.plain : ReadError := .grammar "invalid syntax"

def ReadError.message : ReadError → Text
  | .grammar message => message
  | .indentation message => message
  | .tabs => "inconsistent use of tabs and spaces in indentation"
  | .exhausted => []
  | .zero => "source code string cannot contain null bytes"

def ReadError.kind : ReadError → String
  | .grammar _ => "SyntaxError"
  | .indentation _ => "IndentationError"
  | .tabs => "TabError"
  | .exhausted => "MemoryError"
  | .zero => "ValueError"

def ReadError.isPlaced : ReadError → Bool
  | .grammar _ | .indentation _ | .tabs => true
  | .exhausted | .zero => false

structure QuoteMarks where
  raw : Bool := false
  inBytes : Bool := false
  formatted : Bool := false
  deriving DecidableEq, Repr

inductive Lexeme where
  | name (t : Text)
  | word (t : Text)
  | number (value : Literal)
  | quotation (marks : QuoteMarks) (body : Text)
  | mark (t : Text)
  | newline
  | indent
  | dedent
  | finish

structure Token where
  lexeme : Lexeme
  line : Nat
  depth : Nat

def Token.isQuotation (t : Token) : Bool := t.lexeme matches .quotation ..

def wordList : List Text := Text.splitAt ' ' t

def keywords : List Text :=
  wordList ("False None True and as assert async await break class continue def del elif else except " ++
    "finally for from global if import in is lambda nonlocal not or pass raise return try while with yield")

def marks : List Text := wordList "**= //= >>= <<= ... != %= &= ** *= += -= -> // /= := << <= <> == >= >> @= ^= |="

def bracketLimit : Nat := 200

def indentLimit : Nat := 100

structure Scan where
  rest : Text
  line : Nat := 1
  /-- The columns of the levels, innermost first: with a tab as a step to the next multiple of eight, and
  with a tab as one column. -/
  columns : List (Nat × Nat) := [(0, 0)]
  /-- The open brackets with their lines, innermost first. -/
  brackets : List (CodePoint × Nat) := []

namespace Scan

def wrong {α : Type} (pieces : List Text) : Except ReadError α := .error (.grammar (Text.concat pieces))

def token (s : Scan) (lexeme : Lexeme) : Token := ⟨lexeme, s.line, s.brackets.length⟩

def closing : CodePoint :=
  if c = '(' then ')' else if c = '[' then ']' else '\x7d'

def unclosed : ReadError := .grammar (Text.concat ["'", [c], "' was never closed"])

def earlyEnd (s : Scan) : ReadError :=
  match s.brackets with
  | (c, _) :: _ => unclosed c
  | [] => .grammar "unexpected EOF while parsing"

def isNameLike : Bool := c.isAsciiLetter || c.isAsciiDigit || c = '_' || 128 ≤ c.val

def strange? : Option CodePoint :=
  match t with
  | [] => none
  | c :: rest => if c.startsName then rest.find? (!·.continuesName) else some c

def strangeError : ReadError :=
  let number := Text.upper (Text.hex 4 c.val)
  if c.isPrintable then .grammar (Text.concat ["invalid character '", [c], "' (U+", number, ")"])
  else .grammar ("invalid non-printable character U+" ++ number)

def quoteMarks? (letters : Text) : Option QuoteMarks :=
  let word := Numeral.lower letters
  let known : List Text := [[], "u", "r", "b", "f", "br", "rb", "fr", "rf"]
  if known.contains word then
    some { raw := word.contains 'r', inBytes := word.contains 'b', formatted := word.contains 'f' }
  else none

/-- A quotation at the start of a text: its marks, its body, the number of lines it goes on for, and what
follows. -/
def quotation? (s : Scan) : Option (Except ReadError (QuoteMarks × Text × Nat × Text)) :=
  let letters := (s.rest.take 2).takeWhile (·.isAsciiLetter)
  match quoteMarks? letters, s.rest.drop letters.length with
  | some marks, quote :: rest =>
    if quote = '"' || quote = '\'' then
      let triple := Text.startsWith [quote, quote] rest
      match Literal.body triple quote (if triple then rest.drop 2 else rest) with
      | some (body, after) => some (.ok (marks, body, body.count (CodePoint.ofChar '\n'), after))
      | none =>
        let kind : Text := if triple then "unterminated triple-quoted string literal" else "unterminated string literal"
        let last := if triple then s.line + rest.dropLast.count (CodePoint.ofChar '\n') else s.line
        some (wrong [kind, " (detected at line ", Text.ofNat last, ")"])
    else none
  | _, _ => none

def afterNumber : List Text := ["and", "else", "for", "or", "not"]

def amidNumbers : List Text := ["if", "in", "is"]

def hasWordNext : Bool :=
  amidNumbers.any (Text.startsWith · t) ||
    afterNumber.any fun word => (Text.after? word t).any fun rest => !rest.head?.any isNameLike

def numberKind : Text :=
  let start := Numeral.lower (t.take 2)
  if start = "0x" then "hexadecimal" else if start = "0o" then "octal" else if start = "0b" then "binary"
  else "decimal"

def strangeDigit? (base : Nat) (expected : Bool) : Text → Option CodePoint
  | [] => none
  | c :: rest =>
    if c = '_' then if expected then none else strangeDigit? base true rest
    else if !c.isAsciiDigit then none
    else if c.val - 48 < base then strangeDigit? base false rest else some c

def misplacedDigit? : Option CodePoint :=
  let start := Numeral.lower (t.take 2)
  let digits := if (t.drop 2).head? = some (CodePoint.ofChar '_') then t.drop 3 else t.drop 2
  if start = "0o" then strangeDigit? 8 true digits
  else if start = "0b" then strangeDigit? 2 true digits else none

/-- A line among the digits at the start of a text is not followed by a digit, or the mark of an exponent
follows them. -/
def endsBadly : Bool :=
  let line : CodePoint := '_'
  let digits := t.takeWhile fun c => c.isAsciiDigit || c = line
  let next? := (t.drop digits.length).head?
  digits.getLast? = some line || (digits.zip (digits.drop 1)).contains (line, line) ||
    next? = some (CodePoint.ofChar 'e') || next? = some (CodePoint.ofChar 'E')

def number : Except ReadError (Literal × Text) :=
  match misplacedDigit? t, Literal.number? t with
  | some c, _ => wrong ["invalid digit '", [c], "' in ", numberKind t, " literal"]
  | none, some (value, rest) =>
    if rest.head?.any fun c => c.val < 128 && isNameLike c && !hasWordNext rest then
      wrong ["invalid ", if value matches .complex .. then "imaginary" else numberKind t, " literal"]
    else .ok (value, rest)
  | none, none =>
    if numberKind t = "decimal" && t.head? = some (CodePoint.ofChar '0') && !endsBadly t then
      wrong ["leading zeros in decimal integer literals are not permitted; use an 0o prefix for octal integers"]
    else wrong ["invalid ", numberKind t, " literal"]

def opened (s : Scan) (c : CodePoint) (rest : Text) : Except ReadError Scan :=
  if bracketLimit ≤ s.brackets.length then wrong ["too many nested parentheses"]
  else .ok { s with rest, brackets := (c, s.line) :: s.brackets }

def closed (s : Scan) (c : CodePoint) (rest : Text) : Except ReadError Scan :=
  match s.brackets with
  | [] => wrong ["unmatched '", [c], "'"]
  | (other, line) :: outer =>
    if closing other = c then .ok { s with rest, brackets := outer }
    else
      let place : Text := if line = s.line then [] else " on line " ++ Text.ofNat line
      wrong ["closing parenthesis '", [c], "' does not match opening parenthesis '", [other], "'", place]

def markToken (s : Scan) (c : CodePoint) (rest : Text) : Except ReadError (Token × Scan) :=
  let opens : Text := "([\x7b"
  let closes : Text := ")]\x7d"
  if opens.contains c then (s.opened c rest).map fun next => (next.token (.mark [c]), next)
  else if closes.contains c then (s.closed c rest).map fun next => (next.token (.mark [c]), next)
  else if !c.isPrintable then .error (strangeError c)
  else
    let mark := (marks.find? (Text.startsWith · (c :: rest))).getD [c]
    .ok (s.token (.mark mark), { s with rest := rest.drop (mark.length - 1) })

def token? (s : Scan) (c : CodePoint) (rest : Text) : Except ReadError (Token × Scan) :=
  match s.quotation? with
  | some read => do
    let (marks, body, lines, after) ← read
    let next := { s with rest := after, line := s.line + lines }
    return (next.token (.quotation marks body), next)
  | none =>
    if c.isAsciiDigit || (c = '.' && rest.head?.any (·.isAsciiDigit)) then
      (number s.rest).map fun (value, after) => (s.token (.number value), { s with rest := after })
    else if isNameLike c then
      let written := s.rest.takeWhile isNameLike
      let next := { s with rest := s.rest.drop written.length }
      match strange? written with
      | some c => .error (strangeError c)
      | none => .ok (s.token (if keywords.contains written then .word written else .name (Text.normal written)), next)
    else s.markToken c rest

def continued (s : Scan) (rest : Text) : Except ReadError Scan :=
  if rest.take 1 ≠ "\n" then wrong ["unexpected character after line continuation character"]
  else if (rest.drop 1).isEmpty then wrong ["unexpected EOF while parsing"]
  else .ok { s with rest := rest.drop 1, line := s.line + 1 }

/-- The columns at the first character of a line that is no blank, both ways of counting, and the rest. A
backslash keeps the column of its own line. -/
def lineStart : Nat → Option Nat → Nat → Nat → Scan → Except ReadError (Nat × Nat × Scan)
  | 0, _, column, single, s => .ok (column, single, s)
  | fuel + 1, kept?, column, single, s =>
    match s.rest with
    | [] => .ok ((kept?.getD column), (kept?.getD single), s)
    | c :: rest =>
      if c = ' ' then lineStart fuel kept? (column + 1) (single + 1) { s with rest }
      else if c = '\t' then lineStart fuel kept? ((column / 8 + 1) * 8) (single + 1) { s with rest }
      else if c = 12 then lineStart fuel kept? 0 0 { s with rest }
      else if c = '\\' then do
        let kept := if (kept?.getD 0) = 0 then column else kept?.getD 0
        lineStart fuel (if kept = 0 then none else some kept) column single (← s.continued rest)
      else .ok ((kept?.getD column), (kept?.getD single), s)

def levels (s : Scan) (column single : Nat) : Except ReadError (List Token × Scan) :=
  let left := s.columns.takeWhile fun (c, _) => column < c
  let kept := s.columns.drop left.length
  let tokens := left.map fun _ => s.token .dedent
  match kept with
  | (c, other) :: _ =>
    if c = column then if other = single then .ok (tokens, { s with columns := kept }) else .error .tabs
    else if !left.isEmpty then .error (.indentation "unindent does not match any outer indentation level")
    else if indentLimit ≤ s.columns.length then .error (.indentation "too many levels of indentation")
    else if single ≤ other then .error .tabs
    else .ok ([s.token .indent], { s with columns := (column, single) :: s.columns })
  | [] => .ok (tokens, s)

def ending (s : Scan) : List Token := (s.columns.drop 1).map (fun _ => s.token .dedent) ++ [s.token .finish]

def isGap : Bool := c = ' ' || c = '\t' || c = 12

end Scan

/-- When an error among the tokens counts although something before it cannot be read. -/
inductive Precedence where
  | always
  | never
  | after (line : Nat)
  deriving DecidableEq, Repr

structure Tokens where
  tokens : List Token
  error? : Option (ReadError × Precedence) := none
  endsInToken : Bool := false

namespace Tokens

def cons (t : Token) (ts : Tokens) : Tokens := { ts with tokens := t :: ts.tokens }

def append (front : List Token) (ts : Tokens) : Tokens := { ts with tokens := front ++ ts.tokens }

def stop (e : ReadError) : Tokens := { tokens := [], error? := some (e, .always) }

def stopLine (e : ReadError) : Tokens := { tokens := [], error? := some (e, .never) }

def orStop {α : Type} (read : Except ReadError α) (go : α → Tokens) : Tokens :=
  match read with
  | .error e => stopLine e
  | .ok a => go a

def stopEarly (s : Scan) : Tokens :=
  let precedence : Precedence := match s.brackets with
    | (_, line) :: _ => .after line
    | [] => .never
  { tokens := [], error? := some (s.earlyEnd, precedence) }

def scanFrom : Nat → Bool → Bool → Scan → Tokens
  | 0, _, _, _ => stop .plain
  | fuel + 1, fresh, said, s =>
    if fresh && s.brackets.isEmpty then
      orStop (Scan.lineStart fuel none 0 0 s) fun (column, single, next) =>
        match next.rest with
        | [] =>
          if column = 0 then { tokens := next.ending }
          else orStop (next.levels column single) fun (tokens, after) => { tokens := tokens ++ after.ending }
        | c :: rest =>
          if c = '#' then scanFrom fuel true false { next with rest := rest.dropWhile (· ≠ '\n') }
          else if c = '\n' then scanFrom fuel true false { next with rest, line := next.line + 1 }
          else orStop (next.levels column single) fun (tokens, after) =>
            append tokens (scanFrom fuel false false after)
    else
      match s.rest with
      | [] =>
        if !s.brackets.isEmpty then stopEarly s
        else { tokens := (if said then [s.token .newline] else []) ++ s.ending }
      | c :: rest =>
        if Scan.isGap c then scanFrom fuel false said { s with rest }
        else if c = '#' then scanFrom fuel false said { s with rest := rest.dropWhile (· ≠ '\n') }
        else if c = '\n' then
          let next := { s with rest, line := s.line + 1 }
          if !s.brackets.isEmpty then scanFrom fuel false said next
          else if said then cons (s.token .newline) (scanFrom fuel true false next) else scanFrom fuel true false next
        else if c = '\\' then orStop (s.continued rest) (scanFrom fuel false said)
        else
          match s.token? c rest with
          | .error e => stop e
          | .ok (token, next) =>
            let ts := cons token (scanFrom fuel false true next)
            if next.rest.isEmpty && !token.isQuotation then { ts with endsInToken := true } else ts

def ofText : Tokens :=
  let t := Text.unifyLines source
  scanFrom (2 * t.length + 2) true false { rest := t }

def ofModule : Tokens :=
  let t := Text.unifyLines source
  ofText (if t.getLast?.any (· ≠ CodePoint.ofChar '\n') then t ++ [CodePoint.ofChar '\n'] else t)

end Tokens
end Counterpart.Script
