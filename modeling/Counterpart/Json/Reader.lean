import Counterpart.Json.Basic
import Counterpart.Number.Numeral

/-!
Reading JSON. A document that is not well formed is refused at its first flaw, with the position of
that flaw counted in code points from zero and in lines and columns from one.
-/
namespace Counterpart.Json

inductive Flaw where
  | expectingValue
  | expectingName
  | expectingColon
  | expectingComma
  | extraData
  | badEscape
  | badUnicodeEscape
  | controlCharacter
  | unterminatedText
  | byteOrderMark
  | tooManyDigits (count : Nat)
  | tooDeep (what : Text)
  deriving DecidableEq, Repr

structure ReadError where
  flaw : Flaw
  position : Nat
  line : Nat
  column : Nat
  deriving DecidableEq, Repr

def Flaw.message : Flaw → Text
  | .expectingValue => "Expecting value"
  | .expectingName => "Expecting property name enclosed in double quotes"
  | .expectingColon => "Expecting ':' delimiter"
  | .expectingComma => "Expecting ',' delimiter"
  | .extraData => "Extra data"
  | .badEscape => "Invalid \\escape"
  | .badUnicodeEscape => "Invalid \\uXXXX escape"
  | .controlCharacter => "Invalid control character at"
  | .unterminatedText => "Unterminated string starting at"
  | .byteOrderMark => "Unexpected UTF-8 BOM (decode using utf-8-sig)"
  | .tooManyDigits count => Numeral.tooLongMessage count
  | .tooDeep what =>
    Text.concat ["maximum recursion depth exceeded while decoding a JSON ", what, " from a unicode string"]

def ReadError.message (e : ReadError) : Text :=
  match e.flaw with
  | .tooManyDigits _ | .tooDeep _ => e.flaw.message
  | _ =>
    Text.concat [e.flaw.message, ": line ", Text.ofNat e.line, " column ", Text.ofNat e.column,
      " (char ", Text.ofNat e.position, ")"]

def ReadError.isTooDeep (e : ReadError) : Bool :=
  match e.flaw with
  | .tooDeep _ => true
  | _ => false

structure Cursor where
  position : Nat
  rest : Text

abbrev Refusal := Flaw × Nat

def isGap (c : CodePoint) : Bool := c.val == 32 || c.val == 9 || c.val == 10 || c.val == 13

def skip (cur : Cursor) : Cursor :=
  ⟨cur.position + (cur.rest.takeWhile isGap).length, cur.rest.dropWhile isGap⟩

def Cursor.advance (cur : Cursor) (n : Nat) : Cursor := ⟨cur.position + n, cur.rest.drop n⟩

def hex4? (a b c d : CodePoint) : Option Nat :=
  match a.hexValue?, b.hexValue?, c.hexValue?, d.hexValue? with
  | some a, some b, some c, some d => some (((a * 16 + b) * 16 + c) * 16 + d)
  | _, _, _, _ => none

def shortEscape? (c : CodePoint) : Option CodePoint :=
  if c = '"' || c = '\\' || c = '/' then some c
  else if c = 'b' then some 8
  else if c = 'f' then some 12
  else if c = 'n' then some 10
  else if c = 'r' then some 13
  else if c = 't' then some 9
  else none

/-- The second half of a pair written as an escape right after the first half: its value, when the
six code points of the escape are followed by at least one more. -/
def secondHalf? : Text → Option (Option Nat)
  | s :: u :: a :: b :: c :: d :: _ :: _ =>
    if s = '\\' && u = 'u' then some (hex4? a b c d) else none
  | _ => none

def textBody (start : Nat) : Nat → Nat → Text → Text → Except Refusal (Text × Cursor)
  | 0, _, _, _ => .error (.unterminatedText, start)
  | fuel + 1, position, read, rest =>
    match rest with
    | [] => .error (.unterminatedText, start)
    | c :: rest =>
      if c = '"' then .ok (read.reverse, ⟨position + 1, rest⟩)
      else if c.val < 32 then .error (.controlCharacter, position)
      else if c = '\\' then
        match rest with
        | [] => .error (.unterminatedText, start)
        | e :: rest =>
          if e = 'u' then
            match rest with
            | a :: b :: c :: d :: x :: more =>
              match hex4? a b c d with
              | none => .error (.badUnicodeEscape, position + 1)
              | some high =>
                if Utf16.isHigh high then
                  match secondHalf? (x :: more) with
                  | some none => .error (.badUnicodeEscape, position + 7)
                  | some (some low) =>
                    if Utf16.isLow low then
                      textBody start fuel (position + 12) (Utf16.pairPoint high low :: read)
                        ((x :: more).drop 6)
                    else textBody start fuel (position + 6) (CodePoint.ofNat high :: read) (x :: more)
                  | none => textBody start fuel (position + 6) (CodePoint.ofNat high :: read) (x :: more)
                else textBody start fuel (position + 6) (CodePoint.ofNat high :: read) (x :: more)
            | _ => .error (.badUnicodeEscape, position + 1)
          else
            match shortEscape? e with
            | some value => textBody start fuel (position + 2) (value :: read) rest
            | none => .error (.badEscape, position)
      else textBody start fuel (position + 1) (c :: read) rest

def readText (size : Nat) (cur : Cursor) : Except Refusal (Text × Cursor) :=
  textBody (cur.position - 1) (size + 1) cur.position [] cur.rest

def wholeDigits : Text → Text
  | [] => []
  | c :: rest =>
    if c = '0' then [c]
    else if c.isAsciiDigit then c :: rest.takeWhile (·.isAsciiDigit)
    else []

def fractionPart : Text → Text
  | [] => []
  | c :: rest =>
    let digits := rest.takeWhile (·.isAsciiDigit)
    if c = '.' && !digits.isEmpty then c :: digits else []

def exponentPart : Text → Text
  | [] => []
  | c :: rest =>
    if c = 'e' || c = 'E' then
      let sign := match rest with
        | s :: _ => if s = '+' || s = '-' then [s] else []
        | [] => []
      let digits := (rest.drop sign.length).takeWhile (·.isAsciiDigit)
      if digits.isEmpty then [] else c :: (sign ++ digits)
    else []

/-- The digits of the number at the start of a text, when it is an integer with too many of them. -/
def tooLong? (whole fraction exponent : Text) : Option Nat :=
  if fraction.isEmpty && exponent.isEmpty && Numeral.digitLimit < whole.length then some whole.length
  else none

/-- The number at the start of a text and its length, or the number of its digits when these are too
many. -/
def number? (t : Text) : Option (Except Nat (Json × Nat)) :=
  let minus : Nat := if Text.startsWith "-" t then 1 else 0
  let body := t.drop minus
  let whole := wholeDigits body
  if whole.isEmpty then none
  else
    let fraction := fractionPart (body.drop whole.length)
    let exponent := exponentPart (body.drop (whole.length + fraction.length))
    let length := minus + whole.length + fraction.length + exponent.length
    match tooLong? whole fraction exponent with
    | some count => some (.error count)
    | none =>
      if fraction.isEmpty && exponent.isEmpty then
        (Numeral.digits? 10 whole).map fun n => .ok (.int (if minus = 1 then -(n : Int) else n), length)
      else
        (Numeral.decimal? (minus == 1) (whole ++ fraction ++ exponent)).map fun d =>
          .ok (.float d, length)

def words : List (Text × Json) :=
  [("null", .null), ("true", .bool true), ("false", .bool false), ("NaN", .float Double.notANumber),
   ("Infinity", .float (Double.infinity false)), ("-Infinity", .float (Double.infinity true))]

mutual
def readValue (size : Nat) : Nat → Nat → Cursor → Except Refusal (Json × Cursor)
  | _, 0, cur => .error (.expectingValue, cur.position)
  | depth, fuel + 1, cur =>
    match cur.rest with
    | [] => .error (.expectingValue, cur.position)
    | c :: rest =>
      let next : Cursor := ⟨cur.position + 1, rest⟩
      if c = '"' then (readText size next).map fun (t, after) => (.str t, after)
      else if c = '\x7b' then
        let inner := skip next
        if depth = 0 then .error (.tooDeep "object", cur.position)
        else if Text.startsWith "\x7d" inner.rest then .ok (.obj [], inner.advance 1)
        else readMembers size (depth - 1) fuel inner []
      else if c = '[' then
        let inner := skip next
        if depth = 0 then .error (.tooDeep "array", cur.position)
        else if Text.startsWith "]" inner.rest then .ok (.arr [], inner.advance 1)
        else readItems size (depth - 1) fuel inner []
      else
        match words.find? fun (word, _) => Text.startsWith word cur.rest with
        | some (word, value) => .ok (value, cur.advance word.length)
        | none =>
          match number? cur.rest with
          | some (.ok (value, length)) => .ok (value, cur.advance length)
          | some (.error count) => .error (.tooManyDigits count, cur.position)
          | none => .error (.expectingValue, cur.position)

def readItems (size : Nat) : Nat → Nat → Cursor → List Json → Except Refusal (Json × Cursor)
  | _, 0, cur, _ => .error (.expectingValue, cur.position)
  | depth, fuel + 1, cur, read =>
    match readValue size depth fuel cur with
    | .error refusal => .error refusal
    | .ok (item, after) =>
      let after := skip after
      if Text.startsWith "]" after.rest then .ok (.arr (item :: read).reverse, after.advance 1)
      else if Text.startsWith "," after.rest then
        readItems size depth fuel (skip (after.advance 1)) (item :: read)
      else .error (.expectingComma, after.position)

def readMembers (size : Nat) : Nat → Nat → Cursor → List (Text × Json) → Except Refusal (Json × Cursor)
  | _, 0, cur, _ => .error (.expectingName, cur.position)
  | depth, fuel + 1, cur, read =>
    if !Text.startsWith "\"" cur.rest then .error (.expectingName, cur.position)
    else
      match readText size (cur.advance 1) with
      | .error refusal => .error refusal
      | .ok (name, after) =>
        let after := skip after
        if !Text.startsWith ":" after.rest then .error (.expectingColon, after.position)
        else
          match readValue size depth fuel (skip (after.advance 1)) with
          | .error refusal => .error refusal
          | .ok (value, after) =>
            let members := Keyed.set name value read
            let after := skip after
            if Text.startsWith "\x7d" after.rest then .ok (.obj members, after.advance 1)
            else if Text.startsWith "," after.rest then
              readMembers size depth fuel (skip (after.advance 1)) members
            else .error (.expectingComma, after.position)
end

def lineColumn (document : Text) (position : Nat) : Nat × Nat :=
  let passed := document.take position
  let lineFeed : CodePoint := '\n'
  (passed.count lineFeed + 1, (passed.reverse.takeWhile (· ≠ lineFeed)).length + 1)

def locate (document : Text) (refusal : Refusal) : ReadError :=
  let (line, column) := lineColumn document refusal.2
  ⟨refusal.1, refusal.2, line, column⟩

def levelLimit : Nat := 989

def read (document : Text) (levels : Nat := levelLimit) : Except ReadError Json :=
  if Text.startsWith "﻿" document then .error (locate document (.byteOrderMark, 0))
  else
    match readValue document.length levels (2 * document.length + 2) (skip ⟨0, document⟩) with
    | .error refusal => .error (locate document refusal)
    | .ok (value, after) =>
      let after := skip after
      if after.rest.isEmpty then .ok value
      else .error (locate document (.extraData, after.position))

end Counterpart.Json
