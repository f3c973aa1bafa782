import Counterpart.Regular.Expr
import Counterpart.Text.Blank
import Counterpart.Text.Digit
import Counterpart.Text.Lower
import Counterpart.Text.Upper
import Counterpart.Text.Word

/-!
Finding what a regular expression fits. What is left to fit is a row of tasks; where there is a choice, the
other way is put aside with all it needs, and taken up when the first comes to nothing. Fuel bounds the steps.
-/
namespace Counterpart.Regular

/-! ## Letters -/

def folded (flags : Flags) (c : CodePoint) : CodePoint :=
  if flags.ascii then (if 65 ≤ c.val && c.val ≤ 90 then CodePoint.ofNat (c.val + 32) else c)
  else
    match c.lower with
    | [d] => d
    | _ => c

def Class.holds (c : Class) (ascii : Bool) (p : CodePoint) : Bool :=
  match c with
  | .digit => if ascii then p.isAsciiDigit else p.isDigit
  | .space => if ascii then (9 ≤ p.val && p.val ≤ 13) || p.val = 32 else p.isBlank
  | .word => if ascii then p.isAsciiDigit || p.isAsciiLetter || p.val = 95 else p.isWord

def Member.holds (flags : Flags) (p : CodePoint) : Member → Bool
  | .range first last =>
    let within (q : CodePoint) : Bool := first.val ≤ q.val && q.val ≤ last.val
    within p || (flags.ignoreCase &&
      (within (folded flags p) || (first = last && folded flags first = folded flags p) ||
        p.upper.any within))
  | .ofClass c negated => c.holds flags.ascii p != negated

/-! ## Places -/

abbrev Spans := Array (Option (Nat × Nat))

structure Subject where
  letters : Array CodePoint
  /-- Where the part starts: what stands before is not there for anchors of the text. -/
  first : Nat := 0
  /-- Where the part ends. -/
  last : Nat

def Subject.isBoundary (s : Subject) (flags : Flags) (place : Nat) : Bool :=
  let isWord (i : Nat) : Bool := ((s.letters[i]?).map (Class.word.holds flags.ascii)).getD false
  let before := 0 < place && isWord (place - 1)
  let after := place < s.last && isWord place
  before != after

def Anchor.holds (a : Anchor) (s : Subject) (flags : Flags) (place : Nat) : Bool :=
  let newline : CodePoint := '\n'
  match a with
  | .textStart => place = 0
  | .textEnd => place = s.last
  | .lineStart => place = 0 || s.letters[place - 1]? = some newline
  | .lineEnd => place = s.last || s.letters[place]? = some newline
  | .finalLineEnd => place = s.last || (place + 1 = s.last && s.letters[place]? = some newline)
  | .boundary => s.isBoundary flags place
  | .noBoundary => !s.isBoundary flags place

/-! ## Matching -/

inductive Task where
  | fit (e : Expr)
  | close (number start : Nat)
  | leave (start : Nat)
  /-- Goes on with a repetition that has been there so often, last from a place on. -/
  | more (body : Expr) (least : Nat) (most? : Option Nat) (greed : Greed) (count start : Nat)

/-- Where the search stands: what is left to do, the place, the groups, and the one that ended last. -/
structure State where
  tasks : List Task
  place : Nat
  spans : Spans
  lastGroup : Nat := 0

def State.step (st : State) (s : Subject) (rest : List Task) (fits : CodePoint → Bool) : Option State :=
  if st.place < s.last then
    match s.letters[st.place]? with
    | some p => if fits p then some { st with tasks := rest, place := st.place + 1 } else none
    | none => none
  else none

def State.after? (st : State) (s : Subject) (flags : Flags) (first last : Nat) : Option Nat :=
  let size := last - first
  let same (i : Nat) : Bool :=
    match s.letters[first + i]?, s.letters[st.place + i]? with
    | some a, some b => a = b || (flags.ignoreCase && folded flags a = folded flags b)
    | _, _ => false
  if st.place + size ≤ s.last && (List.range size).all same then some (st.place + size) else none

/-- The next state, with those that are put aside. A state that comes to nothing gives way to the last of them;
`inside` runs a state on its own. -/
def State.next? (st : State) (s : Subject) (inside : State → Option State) (others : List State) :
    Option (State × List State) :=
  let orElse (st? : Option State) : Option (State × List State) :=
    match st?, others with
    | some st, _ => some (st, others)
    | none, next :: others => some (next, others)
    | none, [] => none
  match st.tasks with
  | [] => none
  | .close number start :: rest =>
    let spans := st.spans.setIfInBounds number (some (start, st.place))
    some ({ st with tasks := rest, spans, lastGroup := number }, others)
  | .leave start :: rest => orElse (if st.place = start then none else some { st with tasks := rest })
  | .more body least most? greed count start :: rest =>
    let again : State := { st with tasks := .fit body :: .more body least most? greed (count + 1) st.place :: rest }
    let enough : State := { st with tasks := rest }
    let mayRepeat := most?.all (count < ·) && (count = 0 || st.place ≠ start)
    if count < least then some (again, others)
    else if !mayRepeat then some (enough, others)
    else
      match greed with
      | .greedy => some (again, enough :: others)
      | .lazy => some (enough, again :: others)
  | .fit e :: rest =>
    match e with
    | .empty => some ({ st with tasks := rest }, others)
    | .letters flags negated members =>
      orElse (st.step s rest fun p => members.any (Member.holds flags p) != negated)
    | .any lines => orElse (st.step s rest fun p => lines || p ≠ '\n')
    | .sequence a b => some ({ st with tasks := .fit a :: .fit b :: rest }, others)
    | .either a b => some ({ st with tasks := .fit a :: rest }, { st with tasks := .fit b :: rest } :: others)
    | .repeated body least most? greed =>
      some ({ st with tasks := .more body least most? greed 0 st.place :: rest }, others)
    | .group number body => some ({ st with tasks := .fit body :: .close number st.place :: rest }, others)
    | .again flags number _ =>
      match st.spans[number]? with
      | some (some (first, last)) =>
        orElse ((st.after? s flags first last).map fun place => { st with tasks := rest, place })
      | _ => orElse none
    | .anchor flags a => orElse (if a.holds s flags st.place then some { st with tasks := rest } else none)
    | .look ahead negated body =>
      let start? : Option Nat := if ahead then some st.place
        else body.width?.bind fun n => if n ≤ st.place then some (st.place - n) else none
      match start?.bind fun place => inside { st with tasks := [.fit body], place }, negated with
      | some inner, false =>
        some ({ st with tasks := rest, spans := inner.spans, lastGroup := inner.lastGroup }, others)
      | none, true => some ({ st with tasks := rest }, others)
      | _, _ => orElse none
    | .choice number yes no =>
      let found := (st.spans[number]?.bind id).isSome
      some ({ st with tasks := .fit (if found then yes else no) :: rest }, others)
    | .atomic body => orElse ((inside { st with tasks := [.fit body] }).map fun inner => { inner with tasks := rest })

def run (s : Subject) : Nat → State → List State → Option State
  | 0, _, _ => none
  | fuel + 1, st, others =>
    if st.tasks.isEmpty then some st
    else
      match st.next? s (fun inner => run s fuel inner []) others with
      | some (next, others) => run s fuel next others
      | none => none

def stepLimit : Nat := 2000000

structure Found where
  spans : Spans
  lastGroup : Nat

def Pattern.matchAt (p : Pattern) (s : Subject) (whole moved : Bool) (place : Nat) : Option Found :=
  let atEnd : List Task := if whole then [.fit (.anchor {} .textEnd)] else []
  let finish : List Task := if moved then .leave place :: atEnd else atEnd
  let start : State :=
    { tasks := .fit p.body :: finish, place, spans := Array.replicate (p.groups + 1) none }
  (run s stepLimit start []).map fun st =>
    { spans := st.spans.setIfInBounds 0 (some (place, st.place)), lastGroup := st.lastGroup }

/-- What a pattern fits from the start of the part on; at the start itself it may have to have something in
it. -/
def Pattern.search (p : Pattern) (s : Subject) (moved : Bool) : Option Found :=
  (List.range (s.last + 1 - s.first)).findSome? fun i => p.matchAt s false (moved && i = 0) (s.first + i)

end Counterpart.Regular
