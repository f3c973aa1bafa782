import Counterpart.Text.Basic

/-!
Surrogates that stand alone. A text with one of them has no bytes in UTF-8; the first run of them is told.
-/
namespace Counterpart

structure SurrogateRun where
  start : Nat
  stop : Nat
  first : CodePoint
  deriving DecidableEq, Repr

namespace SurrogateRun

def from? (position : Nat) : Text → Option SurrogateRun
  | [] => none
  | c :: rest =>
    if c.isSurrogate then some ⟨position, position + 1 + (rest.takeWhile (·.isSurrogate)).length, c⟩
    else from? (position + 1) rest

def of? (t : Text) : Option SurrogateRun := from? 0 t

def message (r : SurrogateRun) : Text :=
  let place : Text :=
    if r.stop = r.start + 1 then
      Text.concat ["character '\\u", Text.hex 4 r.first.val, "' in position ", Text.ofNat r.start]
    else Text.concat ["characters in position ", Text.ofNat r.start, "-", Text.ofNat (r.stop - 1)]
  Text.concat ["'utf-8' codec can't encode ", place, ": surrogates not allowed"]

end SurrogateRun
end Counterpart
