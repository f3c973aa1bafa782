import Counterpart.Console.Emoji
import Counterpart.Console.Style
import Counterpart.Console.Styled
import Counterpart.Script.Constant
import Counterpart.Script.Explanation
import Counterpart.Text.Word

/-!
Texts with marks in brackets for their style, and names of pictures between colons. Nothing shows a
style here, so that the marks vanish; a mark that ends a style has to have one that begins it.
-/
namespace Counterpart.Console

inductive MarkupError where
  | unopened (mark : Text) (position : Nat)
  | nothingOpen (position : Nat)
  | style (error : StyleError)
  | unreadable (looked whole reason : Text)
  | valueless (whole reason : Text)
  deriving DecidableEq, Repr

def MarkupError.kind : MarkupError → FaultKind
  | .style _ => .value
  | _ => .markup

def MarkupError.message : MarkupError → Text
  | .unopened mark position =>
    Text.concat ["closing tag '[", mark, "]' at position ", Text.ofNat position,
      " doesn't match any open tag"]
  | .nothingOpen position =>
    Text.concat ["closing tag '[/]' at position ", Text.ofNat position, " has nothing to close"]
  | .style error => error.message
  | .unreadable looked whole reason =>
    Text.concat ["error parsing ", Quoted.text looked, " in ", Quoted.text whole, "; ", reason]
  | .valueless whole reason => Text.concat ["error parsing ", Quoted.text whole, "; ", reason]

/-! ## Pictures -/

def pictureName? (t : Text) : Option (Text × Text) :=
  let name := t.takeWhile fun c => c ≠ CodePoint.ofChar ':' && !c.isBlank
  match t.drop name.length with
  | c :: rest => if c = CodePoint.ofChar ':' then some (name, rest) else none
  | [] => none

def cutVariant (name : Text) : Text × Text :=
  let text : Text := "-text"
  let emoji : Text := "-emoji"
  if Text.startsWith text.reverse name.reverse then (name.take (name.length - text.length), [0xFE0E])
  else if Text.startsWith emoji.reverse name.reverse then
    (name.take (name.length - emoji.length), [0xFE0F])
  else (name, [])

def withPictures : Nat → Text → Text
  | 0, t => t
  | _, [] => []
  | fuel + 1, c :: rest =>
    if c ≠ ':' then c :: withPictures fuel rest
    else
      match pictureName? rest with
      | none => c :: withPictures fuel rest
      | some (name, after) =>
        let (base, variant) := cutVariant name
        match picture? base.lower with
        | some picture => picture ++ variant ++ withPictures fuel after
        | none => c :: (name ++ CodePoint.ofChar ':' :: withPictures fuel after)

/-! ## Marks -/

inductive Piece where
  | plain (t : Text)
  | mark (position : Nat) (inner : Text)
  deriving DecidableEq, Repr

def startsMark (c : CodePoint) : Bool :=
  (97 ≤ c.val && c.val ≤ 122) || c = '#' || c = '/'
    || c = '@'

/-- The mark at the start of a text: the number of backslashes before it, what is in its brackets, and
what follows. -/
def markAt? (t : Text) : Option (Nat × Text × Text) :=
  let slashes := t.takeWhile (· = CodePoint.ofChar '\\')
  match t.drop slashes.length with
  | opening :: c :: rest =>
    let inner := (c :: rest).takeWhile fun x => x ≠ CodePoint.ofChar ']' && x ≠ CodePoint.ofChar '['
    match (c :: rest).drop inner.length with
    | closing :: after =>
      if opening = CodePoint.ofChar '[' && startsMark c && closing = CodePoint.ofChar ']' then
        some (slashes.length, inner, after)
      else none
    | [] => none
  | _ => none

def plainPiece (t : Text) : List Piece := if t.isEmpty then [] else [.plain t]

/-- The parts of a text from a position; what has been read of a plain part comes last one first.
Backslashes before a mark stand for half as many, and an odd one makes the mark plain. -/
def pieces : Nat → Nat → Text → Text → List Piece
  | 0, _, read, t => plainPiece (read.reverse ++ t)
  | _, _, read, [] => plainPiece read.reverse
  | fuel + 1, position, read, c :: rest =>
    match markAt? (c :: rest) with
    | none => pieces fuel (position + 1) (c :: read) rest
    | some (slashes, inner, after) =>
      let next := position + slashes + inner.length + 2
      plainPiece read.reverse ++ plainPiece (List.replicate (slashes / 2) '\\') ++
        (if slashes % 2 = 1 then [.plain (Text.concat ["[", inner, "]"])]
         else [.mark (position + slashes / 2 * 2) inner]) ++
        pieces fuel next [] after

def dropSlashes : Text → Text
  | [] => []
  | [c] => [c]
  | c :: d :: rest =>
    if c = '\\' && d = '[' then d :: dropSlashes rest
    else c :: dropSlashes (d :: rest)

structure Opening where
  start : Nat
  name : Text
  argument? : Option Text
  deriving DecidableEq, Repr

def Opening.style (o : Opening) : Text :=
  match o.argument? with
  | some argument => Text.concat [o.name, " ", argument]
  | none => o.name

def cutMark (inner : Text) : Text × Option Text :=
  let name := inner.takeWhile (· ≠ CodePoint.ofChar '=')
  (name, if name.length < inner.length then some (inner.drop (name.length + 1)) else none)

/-- What an action is given: the part in parentheses behind a name, or nothing in parentheses behind a name
alone, or else the text as it stands. -/
def actionArguments (t : Text) : Text :=
  let name := t.takeWhile fun c => c.isWord || c = CodePoint.ofChar '.'
  let rest := t.drop name.length
  let newline : CodePoint := '\n'
  let body := if rest.getLast? = some newline then rest.dropLast else rest
  if body.isEmpty then "()"
  else if body.head? = some (CodePoint.ofChar '(') && body.getLast? = some (CodePoint.ofChar ')')
      && 2 ≤ body.length && !body.contains newline then body
  else t

def checkAction (given : Text) : Except MarkupError Unit :=
  let looked := actionArguments given.strip
  if looked.any (·.val == 0) then throw (.valueless given "source code string cannot contain null bytes")
  else
    match looked.findIdx? (·.isSurrogate) with
    | some position =>
      throw (.valueless given (Text.concat ["'utf-8' codec can't encode character ",
        Quoted.text ((looked.drop position).take 1), " in position ", Text.ofNat position,
        ": surrogates not allowed"]))
    | none =>
      match Script.readExpression looked with
      | .error e => throw (.unreadable looked given ((Script.Grammar.expressionFault? looked).getD e.message))
      | .ok e =>
        match e.asConstant with
        | .ok _ => return ()
        | .error .malformed => throw (.valueless given "malformed node or string on line 1")
        | .error (.unhashable kind) => throw (.valueless given (Text.concat ["unhashable type: '", kind, "'"]))
        | .error .tooLarge => throw (.valueless given "int too large to convert to float")
        | .error .tooDeep => throw (.valueless given "maximum recursion depth exceeded during ast construction")
        | .error .unreadable => throw (.valueless given [])

def Opening.check (o : Opening) : Except MarkupError Unit :=
  match o.argument? with
  | some given => if Text.startsWith "@" o.name && !given.isEmpty then checkAction given else return ()
  | none => return ()

structure Marked extends Styled where
  styles : List Text := []
  deriving DecidableEq, Repr

namespace Marked

def showBefore (t : Text) (m : Marked) : Marked := { m with text := t ++ m.text }

/-- One more style, which ends at a position. A mark that names an action has a stretch, but no style. -/
def withStyle (o : Opening) (stop : Nat) (m : Marked) : Marked :=
  let m := { m with stretches := ⟨o.start, stop⟩ :: m.stretches }
  if Text.startsWith "@" o.name then m else { m with styles := o.style :: m.styles }

def isSilent (c : CodePoint) : Bool :=
  c.val == 7 || c.val == 8 || c.val == 11 || c.val == 12 || c.val == 13

def shown (t : Text) : Text := (withPictures t.length t).filter (!isSilent ·)

def normalName (name : Text) : Except MarkupError Text := (normalStyle name).mapError .style

/-- The text of the parts after so many characters, when some styles are open, the last opened first. -/
def ofPieces : List Opening → Nat → List Piece → Except MarkupError Marked
  | opened, length, [] =>
    let left := opened.filter fun o => !o.style.isEmpty
    .ok { stretches := left.map fun o => ⟨o.start, length⟩, styles := left.map Opening.style }
  | opened, length, .plain t :: rest =>
    let t := shown (dropSlashes t)
    (ofPieces opened (length + t.length) rest).map (showBefore t)
  | opened, length, .mark position inner :: rest => do
    let (name, argument?) := cutMark inner
    match Text.after? "/" name with
    | none => ofPieces (⟨length, ← normalName name, argument?⟩ :: opened) length rest
    | some closing =>
      if closing.strip.isEmpty then
        match opened with
        | [] => throw (.nothingOpen position)
        | o :: opened =>
          o.check
          return (← ofPieces opened length rest).withStyle o length
      else
        let style ← normalName closing.strip
        match opened.find? (·.name = style) with
        | some o =>
          o.check
          return (← ofPieces (opened.erase o) length rest).withStyle o length
        | none => throw (.unopened inner position)

def ofText (t : Text) : Except MarkupError Marked :=
  if t.contains '[' then ofPieces [] 0 (pieces t.length 0 [] t) else .ok { text := shown t }

def checkStyles (m : Marked) : Except MarkupError Unit :=
  m.styles.forM fun style =>
    match Style.ofText style with
    | .ok _ | .error .unknown => .ok ()
    | .error e => .error (.style e)

end Marked
end Counterpart.Console
