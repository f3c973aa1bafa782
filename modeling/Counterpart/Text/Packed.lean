/-!
Long texts in a shorter form still. A text is given by the bits of its characters. Every bit has a chance, which is told
from the bits that came in the same surroundings before, and takes the less room the more likely it is. Surroundings
are weighed against one another, and those weigh more that have told more.
-/
namespace Counterpart.Packed

/-! ## Digits -/

/-- The characters of ASCII that are no digits though they can be printed. -/
def undigits : List Char := ['"', '\\', '\x7b', '\x7d']

def base : Nat := 91

def value (c : Char) : Nat := c.toNat - 32 - undigits.countP (· < c)

def number (digits : List Char) : Nat := digits.foldl (fun n c => n * base + value c) 0

/-! ## Chances -/

def marks : Array Nat :=
  #[1, 2, 3, 6, 10, 16, 27, 45, 73, 120, 194, 310, 488, 747, 1101, 1546, 2047, 2549, 2994, 3348, 3607, 3785, 3901, 3975,
    4022, 4050, 4068, 4079, 4085, 4089, 4092, 4093, 4094]

/-- The chance with these odds, which are given by their logarithm and are between -2047 and 2047. -/
def chance (odds : Int) : Nat :=
  let place := (odds + 2048).toNat
  (marks.getD (place / 128) 0 * (128 - place % 128) + marks.getD (place / 128 + 1) 0 * (place % 128)) / 128

def odds : Array Int :=
  let table := (List.range 4095).foldl (fun (table : Array Int) (n : Nat) =>
    table ++ Array.replicate (chance (n - 2047) + 1 - table.size) (n - 2047 : Int)) #[]
  table ++ Array.replicate (4096 - table.size) 2047

/-- The digits that are left, and the place of the number that they spell in an interval. -/
structure Source where
  digits : List Char
  code : Nat
  range : Nat := base ^ 5

def Source.refill (s : Source) : Source :=
  if s.range < base ^ 4 then
    ⟨s.digits.tail, s.code * base + (s.digits.head?.elim 0 value), s.range * base⟩
  else s

def Source.bit (s : Source) (chance : Nat) : Bool × Source :=
  let bound := s.range / 4096 * chance
  if s.code < bound then (true, { s with range := bound }.refill.refill)
  else (false, { s with code := s.code - bound, range := s.range - bound }.refill.refill)

/-! ## Surroundings -/

/-- What was read last: characters from the last one back, the word that is being read and the words before it, the
first word of the line, the last mark, and the words by their places in this line and in the one before. Words are known
by numbers. -/
structure Surroundings where
  characters : List UInt32 := List.replicate 8 0
  word : UInt32 := 0
  last : UInt32 := 0
  lastButOne : UInt32 := 0
  first : UInt32 := 0
  mark : UInt32 := 0
  place : Nat := 0
  line : Array UInt32 := Array.replicate 64 0
  above : Array UInt32 := Array.replicate 64 0

def pair (a b : UInt32) : UInt32 := (a + b + 1) * 0x2F0B4C47

def Surroundings.views (s : Surroundings) : Array UInt32 :=
  let near := [0, 1, 2, 3, 4, 6].map fun n => (s.characters.take n).foldl pair 0
  let words := [s.word, pair s.word (s.above.getD s.place 0), pair (pair s.first s.word) (s.characters.headD 0),
    pair s.word s.lastButOne]
  let outline (n : Nat) (shift : UInt32) := (s.characters.take n).foldl (fun (n c : UInt32) => pair n (c >>> shift)) 0
  let others := [outline 5 4, pair (pair s.word s.place.toUInt32) (s.characters.headD 0), pair s.word s.mark, outline 8 5]
  (near ++ words ++ others).toArray.mapIdx fun n view =>
    let number := (view + n.toUInt32) * 0x9E3779B1
    number ^^^ (number >>> 15)

/-- Goes on by a character. A line ends with one of some characters, which say at which place the next one starts. -/
def Surroundings.next (ends : List Char) (s : Surroundings) (c : Char) : Surroundings :=
  let number := c.toNat.toUInt32
  let s : Surroundings := { s with characters := number :: s.characters.take 7 }
  if c.isAlphanum || c = '_' && !ends.contains '_' then { s with word := pair s.word number }
  else
    let s : Surroundings := if s.word = 0 then s else
      { s with word := 0, last := s.word, lastButOne := s.last, first := if s.first = 0 then s.word else s.first
               line := s.line.setIfInBounds s.place s.word }
    let s := if c = '\n' then { s with first := 0 } else s
    if c = ' ' then { s with place := min 63 (s.place + 1) }
    else
      match ends.idxOf? c with
      | some place => { s with mark := number, above := s.line, place }
      | none => { s with mark := number }

structure Echo where
  place : Nat := 0
  held : Nat := 0
  places : Array Nat := Array.replicate (2 ^ 20) 0

def Echo.next (e : Echo) (read : Array Char) (around : Surroundings) : Echo :=
  let held := if e.held ≠ 0 && read[e.place]? = read.back? then e.held + 1 else 0
  if read.size < 5 then { e with held }
  else
    let key := ((around.characters.take 5).foldl pair 0 >>> 12).toNat
    let earlier := e.places.getD key 0
    let places := e.places.setIfInBounds key read.size
    if held ≠ 0 then ⟨e.place + 1, held, places⟩ else ⟨earlier, min 1 earlier, places⟩

/-! ## Bits -/

def views : Nat := 14

/-- A guess at the next bit, and for how many characters such guesses have held. -/
structure Guess where
  bit : Bool
  held : Nat

/-- What is known from the bits so far: how often a bit was clear and set where a view was the same, the chance of a
bit that was so often clear and set, the chance of a guess, and what the views and the guess weigh. -/
structure Knowledge where
  counts : ByteArray := Nat.fold (2 ^ 25) (fun _ _ counts => counts.push 0) (.emptyWithCapacity (2 ^ 25))
  chances : Array Nat := (Array.range (views * 256)).map fun n =>
    (2 * (n % 16) + 1) * 65536 / (2 * (n % 256 / 16) + 2 * (n % 16) + 2)
  trust : Array Nat := (Array.range 32).map fun n => 65536 * (n + 1) / (n + 2)
  weights : Array Int := Array.replicate ((views + 1) * 256) 16000

/-- Counts a bit. The other count becomes smaller if it was large. -/
def count (counts : UInt8) (bit : Bool) : UInt8 :=
  let more (n : UInt8) := if n < 15 then n + 1 else n
  let fewer (n : UInt8) := if n ≤ 2 then n else if n ≤ 4 then 2 else if n ≤ 7 then 3 else 4
  if bit then fewer (counts / 16) * 16 + more (counts % 16) else more (counts / 16) * 16 + fewer (counts % 16)

/-- What is told of the next bit: the odds from a guess, where the counts of the views are, the odds from each, and all of
them weighed twice. -/
structure Forecast where
  guessed : Int
  places : Array Nat
  odds : Array Int
  one : Int
  other : Int

def Knowledge.forecast (k : Knowledge) (all : Array UInt32) (node : UInt32) (one other : Nat)
    (guess? : Option Guess) : Forecast :=
  let guessed := guess?.elim 0 fun g =>
    let told := Packed.odds.getD (k.trust.getD g.held 0 / 16) 0
    if g.bit then told else -told
  go views 0 ⟨guessed, .emptyWithCapacity views, .emptyWithCapacity views, guessed * k.weights.getD (one + views) 0,
    guessed * k.weights.getD (other + views) 0⟩
where
  go : Nat → Nat → Forecast → Forecast
    | 0, _, f => { f with one := within (f.one / 65536), other := within (f.other / 65536) }
    | more + 1, n, f =>
      let number := (all.getD n 0 + node) * 0xC2B2AE35
      let place := ((number ^^^ (number >>> 15)) % 0x2000000).toNat
      let counts := (k.counts.get! place).toNat
      let told := if counts = 0 then 0 else Packed.odds.getD (k.chances.getD (256 * n + counts) 0 / 16) 0
      go more (n + 1) ⟨f.guessed, f.places.push place, f.odds.push told, f.one + told * k.weights.getD (one + n) 0,
        f.other + told * k.weights.getD (other + n) 0⟩
  within (n : Int) : Int := max (-2047) (min 2047 n)

def Knowledge.learn (k : Knowledge) (f : Forecast) (one other : Nat) (guess? : Option Guess) (bit : Bool) :
    Knowledge :=
  let error (odds : Int) : Int := ((if bit then 4096 else 0) - chance odds) * 12
  let trust := guess?.elim k.trust fun g => k.trust.modify g.held fun chance =>
    if g.bit = bit then chance + (65535 - chance) / 40 else chance - chance / 40
  let weights := k.weights.modify (one + views) (· + f.guessed * error f.one / 16384)
  go (error f.one) (error f.other) views k.counts k.chances trust
    (weights.modify (other + views) (· + f.guessed * error f.other / 16384))
where
  go (missed missed' : Int) : Nat → ByteArray → Array Nat → Array Nat → Array Int → Knowledge
    | 0, counts, chances, trust, weights => { counts, chances, trust, weights }
    | n + 1, counts, chances, trust, weights =>
      let place := f.places.getD n 0
      let told := f.odds.getD n 0
      let before := counts.get! place
      let chances := chances.modify (256 * n + before.toNat) fun chance =>
        if bit then chance + (65536 - chance) / 80 else chance - chance / 80
      let weights := weights.modify (one + n) (· + told * missed / 16384)
      let weights := weights.modify (other + n) (· + told * missed' / 16384)
      go missed missed' n (counts.set! place (count before bit)) chances trust weights

/-- Reads the bits of a character. One that is guessed is given by its node, and the guess is off once a bit is another. -/
def bits (all : Array UInt32) (last guess held : Nat) : Nat → UInt32 → Knowledge → Source → UInt32 × Knowledge × Source
  | 0, node, k, s => (node, k, s)
  | more + 1, node, k, s =>
    let one := (views + 1) * node.toNat
    let other := (views + 1) * (128 + last)
    let guess? := if guess >>> (more + 1) = node.toNat then some ⟨guess.testBit more, min 31 held⟩ else none
    let f := k.forecast all node one other guess?
    let (bit, s) := s.bit (chance ((f.one + f.other) / 2))
    bits all last guess held more (2 * node + if bit then 1 else 0) (k.learn f one other guess? bit) s

/-! ## Texts -/

def characters (ends : List Char) : Nat → Surroundings → Echo → Knowledge → Source → Array Char → Array Char
  | 0, _, _, _, _, read => read
  | more + 1, around, e, k, s, read =>
    let e := e.next read around
    let guess := if e.held = 0 then 0 else (read[e.place]?).elim 0 fun c => 128 + c.toNat
    let (node, k, s) := bits around.views (around.characters.headD 0).toNat guess e.held 7 1 k s
    let c := Char.ofNat (node.toNat - 128)
    characters ends more (around.next ends c) e k s (read.push c)

/-- The text of that size with this short form; where the lines of the short form end says nothing. -/
def unpack (size : Nat) (ends : List Char) (short : String) : List Char :=
  let digits := short.toList.filter (· ≠ '\n')
  (characters ends size {} {} {} { digits := digits.drop 5, code := number (digits.take 5) } #[]).toList

end Counterpart.Packed
