import Counterpart.Literal.Basic
import Counterpart.Text.CharacterName
import Counterpart.Value.Fault

/-!
Quoted constants as they are written in a generated module: texts and bytes between single or triple
quotes, with escapes unless they are raw.
-/
namespace Counterpart
namespace Literal

def body (triple : Bool) (quote : CodePoint) : Text → Option (Text × Text)
  | [] => none
  | c :: rest =>
    if c = '\\' then
      match rest with
      | [] => none
      | d :: rest => (body triple quote rest).map fun (b, after) => (c :: d :: b, after)
    else if c = quote && !triple then some ([], rest)
    else if c = quote && Text.startsWith [quote, quote] rest then some ([], rest.drop 2)
    else if c = '\n' && !triple then none
    else (body triple quote rest).map fun (b, after) => (c :: b, after)

def hexNumber? (digits : Text) : Option Nat :=
  digits.foldl (fun sofar c => sofar.bind fun n => c.hexValue?.map (n * 16 + ·)) (some 0)

def leadingHex? (count : Nat) (t : Text) : Option Nat :=
  let digits := t.take count
  if digits.length = count then hexNumber? digits else none

def leadingOctal (t : Text) : Text :=
  (t.take 3).takeWhile fun c => 48 ≤ c.val && c.val < 56

def octalNumber (digits : Text) : Nat := digits.foldl (fun n c => n * 8 + (c.val - 48)) 0

def shortEscape? (c : CodePoint) : Option CodePoint :=
  if c = '\\' || c = '\'' || c = '"' then some c
  else if c = 'a' then some 7
  else if c = 'b' then some 8
  else if c = 'f' then some 12
  else if c = 'n' then some 10
  else if c = 'r' then some 13
  else if c = 't' then some 9
  else if c = 'v' then some 11
  else none

/-- Resolves the escapes of a quotation. An escape of numbered characters has to be complete; one that
means nothing stands for itself, and one that names a character has to name one. In bytes only the short,
octal and two-digit escapes mean something. -/
def unescape (inBytes : Bool) : Nat → Text → Option Text
  | 0, _ => none
  | _, [] => some []
  | fuel + 1, c :: rest =>
    if c ≠ '\\' then (unescape inBytes fuel rest).map (c :: ·)
    else
      match rest with
      | [] => some [c]
      | e :: rest =>
        let octal := leadingOctal (e :: rest)
        let numbered (count : Nat) : Option Text :=
          match leadingHex? count rest with
          | some n =>
            if n < 0x110000 then
              (unescape inBytes fuel (rest.drop count)).map (CodePoint.ofNat n :: ·)
            else none
          | none => none
        if e = '\n' then unescape inBytes fuel rest
        else if !octal.isEmpty then
          let n := octalNumber octal
          (unescape inBytes fuel (rest.drop (octal.length - 1))).map
            (CodePoint.ofNat (if inBytes then n % 256 else n) :: ·)
        else if e = 'x' then numbered 2
        else if !inBytes && e = 'u' then numbered 4
        else if !inBytes && e = 'U' then numbered 8
        else if !inBytes && e = 'N' then
          match Text.after? "\x7b" rest with
          | none => none
          | some more =>
            match more.dropWhile (· ≠ CodePoint.ofChar '\x7d') with
            | [] => none
            | _ :: after =>
              match CodePoint.named? (more.takeWhile (· ≠ CodePoint.ofChar '\x7d')) with
              | some c => (unescape inBytes fuel after).map (c :: ·)
              | none => none
        else
          match shortEscape? e with
          | some value => (unescape inBytes fuel rest).map (value :: ·)
          | none => (unescape inBytes fuel rest).map fun t => c :: e :: t

/-- What is said of an escape that stands in front of a text and cannot be resolved, and the number of its
characters. -/
def escapeFault? (inBytes : Bool) (t : Text) : Option (Text × Nat) :=
  match t with
  | _ :: e :: rest =>
    let numbered (count : Nat) (message : Text) : Option (Text × Nat) :=
      let digits := (rest.take count).takeWhile (·.hexValue?.isSome)
      if digits.length < count then some (message, digits.length + 2)
      else if (hexNumber? digits).any (0x110000 ≤ ·) then some ("illegal Unicode character", count + 2)
      else none
    if e = 'x' then numbered 2 "truncated \\xXX escape"
    else if inBytes then none
    else if e = 'u' then numbered 4 "truncated \\uXXXX escape"
    else if e = 'U' then numbered 8 "truncated \\UXXXXXXXX escape"
    else if e = 'N' then
      let malformed : Text := "malformed \\N character escape"
      match Text.after? "\x7b" rest with
      | none => some (malformed, 2)
      | some more =>
        let name := more.takeWhile (· ≠ CodePoint.ofChar '\x7d')
        if name.isEmpty || name.length = more.length then some (malformed, name.length + 3)
        else if (CodePoint.named? name).isNone then some ("unknown Unicode character name", name.length + 4)
        else none
    else none
  | _ => none

/-- The number of places that the start of a text takes where the escapes of a text are counted: a
character beyond the first 128 counts as the escape that names it. -/
def escapedWidth (c : CodePoint) (next? : Option CodePoint) : Nat :=
  if 128 ≤ c.val then 10
  else if c = '\\' && next?.all (128 ≤ ·.val) then 6
  else 1

/-- What is said of the first escape that cannot be resolved, when so many places stand before the text. -/
def unescapeFault? (inBytes : Bool) : Nat → Text → Option Text
  | _, [] => none
  | place, c :: rest =>
    if c ≠ '\\' then
      unescapeFault? inBytes (place + escapedWidth c rest.head?) rest
    else
      match escapeFault? inBytes (c :: rest) with
      | some (reason, length) =>
        if inBytes then some (Text.concat ["(value error) invalid \\x escape at position ", Text.ofNat place])
        else
          let width := ((c :: rest).take length).foldl (fun n c => n + escapedWidth c (some 0)) 0
          some (Text.concat ["(unicode error) 'unicodeescape' codec can't decode bytes in position ",
            Text.ofNat place, "-", Text.ofNat (place + width - 1), ": ", reason])
      | none =>
        match rest with
        | [] => none
        | e :: rest =>
          if 128 ≤ e.val then unescapeFault? inBytes (place + 16) rest
          else unescapeFault? inBytes (place + 2) rest

def quoteMarks? (letters : Text) : Option (Bool × Bool) :=
  let word := letters.map fun c => if 65 ≤ c.val && c.val ≤ 90 then CodePoint.ofNat (c.val + 32) else c
  if word = [] || word = "u" then some (false, false)
  else if word = "r" then some (true, false)
  else if word = "b" then some (false, true)
  else if word = "br" || word = "rb" then some (true, true)
  else none

def quotation? (t : Text) : Option (Literal × Text) :=
  let letters := t.takeWhile (·.isAsciiLetter)
  match quoteMarks? letters, t.drop letters.length with
  | some (raw, inBytes), quote :: rest =>
    if quote = '"' || quote = '\'' then
      let triple := Text.startsWith [quote, quote] rest
      match body triple quote (if triple then rest.drop 2 else rest) with
      | none => none
      | some (inner, after) =>
        if inBytes && inner.any (128 ≤ ·.val) then none
        else
          (if raw then some inner else unescape inBytes (inner.length + 1) inner).map fun value =>
            (if inBytes then .bytes (value.map fun c => UInt8.ofNat c.val) else .text value, after)
    else none
  | _, _ => none

end Literal

def Text.reread (t : Text) : Except Fault Text :=
  match Literal.quotation? (Text.unifyLines t.shown.doubleQuoted) with
  | some (.text read, []) => .ok read
  | _ => .error .unreadable

end Counterpart
