import Counterpart.Regular.Matcher
import Counterpart.Script.Native.Calculation
import Counterpart.Script.Pause
import Counterpart.Text.Direction

/-!
What the texts of packages cannot do by themselves: fitting regular expressions, what is known of characters, what
objects are made of, and looking at the functions that are running and at the modules that are loaded.
-/
namespace Counterpart.Script

variable {σ : Type} (o : Obj)

def lettersOf : Run σ Text := do
  (← textOf? o).getDM do return (← heldBytes o).map fun b => CodePoint.ofNat b.toNat

/-! ## Regular expressions -/

def countIn : Obj → Nat
  | .int n => n.toNat
  | .truth b => b.toNat
  | _ => 0

def countIn? : Obj → Option Nat
  | .none => none
  | o => some (countIn o)

def flagsIn : Regular.Flags := { ignoreCase := countIn o &&& 2 ≠ 0, ascii := countIn o &&& 256 ≠ 0 }

def memberIn : Obj → Regular.Member
  | .tuple [first, last] => .range (CodePoint.ofNat (countIn first)) (CodePoint.ofNat (countIn last))
  | o => .ofClass ((([.digit, .space] : List Regular.Class)[countIn o / 2]?).getD .word) (countIn o % 2 = 1)

def anchorIn : Regular.Anchor :=
  let anchors : List Regular.Anchor := [.textStart, .textEnd, .lineStart, .lineEnd, .finalLineEnd, .boundary]
  (anchors[countIn o]?).getD .noBoundary

def chained (join : Regular.Expr → Regular.Expr → Regular.Expr) : List Regular.Expr → Regular.Expr
  | [] => .empty
  | [e] => e
  | e :: more => join e (chained join more)

def expressionIn : Nat → Obj → Regular.Expr
  | depth + 1, .tuple (kind :: parts) =>
    let inner := expressionIn depth
    match countIn kind, parts with
    | 0, parts => chained .sequence (parts.map inner)
    | 1, [flags, negated, .tuple members] => .letters (flagsIn flags) (countIn negated ≠ 0) (members.map memberIn)
    | 2, [lines] => .any (countIn lines ≠ 0)
    | 3, options => chained .either (options.map inner)
    | 4, [body, least, most, isLazy] =>
      .repeated (inner body) (countIn least) (countIn? most) (if countIn isLazy ≠ 0 then .lazy else .greedy)
    | 5, [number, body] => .group (countIn number) (inner body)
    | 6, [flags, number, size] => .again (flagsIn flags) (countIn number) (countIn? size)
    | 7, [flags, anchor] => .anchor (flagsIn flags) (anchorIn anchor)
    | 8, [ahead, negated, body] => .look (countIn ahead ≠ 0) (countIn negated ≠ 0) (inner body)
    | 9, [number, yes, no] => .choice (countIn number) (inner yes) (inner no)
    | 10, [body] => .atomic (inner body)
    | _, _ => .empty
  | _, _ => .empty

def expressionDepth : Nat := 10000

def patternIn (code : Obj) (groups : Nat) : Regular.Pattern := { body := expressionIn expressionDepth code, groups }

def spanObj : Option (Nat × Nat) → Obj
  | some (first, last) => .tuple [.int first, .int last]
  | none => .tuple [.int (-1), .int (-1)]

def findPattern (p : Regular.Pattern) (subject : Obj) (first last mode : Nat) (moved : Bool) : Run σ Obj := do
  let s : Regular.Subject := { letters := (← lettersOf subject).toArray, first, last }
  let found? :=
    match mode with
    | 0 => p.matchAt s false moved first
    | 1 => p.matchAt s true moved first
    | _ => p.search s moved
  let some found := found? | return .none
  return .tuple [.int found.lastGroup, .tuple (found.spans.toList.map spanObj)]

/-! ## What objects are made of -/

def ParamKind.place : ParamKind → Nat
  | .positionalOnly => 0
  | .ordinary => 1
  | .rest => 2
  | .keywordOnly => 3
  | .restNamed => 4

/-- The parameters of a function with their defaults, the annotations, the names that its body binds, and the flag of
its code that tells how it pauses. -/
def Function.made (f : Function) : List Obj :=
  let (names, pausing) : List Text × Int := match f.body with
    | .block _ names isGenerator isAsync =>
      (names.own, if isAsync then (if isGenerator then 512 else 128) else if isGenerator then 32 else 0)
    | _ => ([], 0)
  let slots := f.slots.map fun s => Obj.tuple (.int s.kind.place :: .text s.name :: s.default?.toList)
  [.tuple slots, f.hints?.getD .none, .tuple (names.map .text), .int pausing]

def partsOf : Run σ (List Obj) := do
  let native (sort : NativeSort) (owner name : String) : List Obj :=
    [.int sort.ctorIdx, if sort = .function then .text owner else .ref (known owner),
     .text name]
  match o with
  | .native sort owner name => return native sort owner name
  | .bound self sort owner name => return native sort owner name ++ [self]
  | o =>
    match ← payloadOf o with
    | .function f => return f.made
    | .method self fn => return [self, fn]
    | .wrapper fn => return [fn]
    | .above cls self start => return [.ref cls, self, .ref start]
    | .place cls name => return [.int 6, .ref cls, .text name]
    | .stream parts => return parts
    | .value v => return [v]
    | .generator g =>
      let frame : Obj := match g.env.standing with
        | .function a => if g.stage = .ended then .none else .ref a
        | _ => .none
      let inner : Obj := match g.tasks with
        | .forward _ it :: _ => it
        | _ => .none
      return [.int g.stage.ctorIdx, frame, inner]
    | _ => return []

def redefault (f defaults : Obj) : Run σ Unit := do
  if let .ref a := f then
    let f ← heldFunction f
    let default? (o : Obj) : Run σ (Option Obj) := do return (← itemsOf o).head?
    let values ← (← itemsOf defaults).mapM default?
    setPayload a (.function { f with slots := f.slots.zipWith (fun s default? => { s with default? }) values })

/-! ## What is running -/

def spaceBack (back : Int) : Run σ Obj := do
  let some m := (← get).callers[back.toNat]? | fail "ValueError" "call stack is not deep enough"
  attributesOf (.ref m)

def titledClass (cls : Obj) : Run σ Obj := do
  if let .ref a := cls then
    if let .cls info := (← cellAt a).payload then
      let module ← strOf (← getAttr cls "__module__")
      setPayload a (.cls { info with title? := some (module ++ "." ++ info.name) })
  return cls

/-! ## Characters -/

def writtenDecomposition (c : CodePoint) : Text :=
  match Decomposition.of? c.val with
  | none => []
  | some d =>
    let style := (Decomposition.styles[d.style]?).getD []
    let parts := d.parts.map fun n => Text.upper (Text.hex 4 n)
    Text.join " " (if style.isEmpty then parts else style :: parts)

def propertyOf (property : Text) (c : CodePoint) : Obj :=
  let number (n? : Option Nat) : Obj := n?.elim .none fun n => .int n
  if property = "name" then c.name?.elim .none .text
  else if property = "category" then .text c.category.code
  else if property = "combining" then .int (Decomposition.classOf c.val)
  else if property = "decomposition" then .text (writtenDecomposition c)
  else if property = "decimal" then number c.digitValue?
  else if property = "digit" then number c.digitSign?
  else if property = "numeric" then c.numeric?.elim .none fun (a, b) => .tuple [.int a, .int b]
  else if property = "bidirectional" then .text c.direction
  else if property = "east_asian_width" then .text c.breadth else .int (if c.isTurned then 1 else 0)

def characterProperty (property text : Obj) : Run σ Obj := do
  return propertyOf (← heldText property) (((← heldText text).head?).getD 0)

def characterNamed (name : Obj) : Run σ Obj := do
  return (CodePoint.named? (← heldText name)).elim .none fun c => .text [c]

def normalText (compatible joined text : Obj) : Run σ Obj := do
  return .text ((← heldText text).normalized (← truthOf compatible) (← truthOf joined))

def backingRoutines : Routines σ :=
  [("finding", fun args => do
      findPattern (patternIn (nth args 0) (countIn (nth args 1))) (nth args 2) (← indexOf (nth args 3)).toNat
        (← indexOf (nth args 4)).toNat (countIn (nth args 5)) (← truthOf (nth args 6))),
   ("property", of2 characterProperty),
   ("named", of1 characterNamed),
   ("normal", of3 normalText),
   ("titled", of1 titledClass),
   ("parts", fun args => .tuple <$> partsOf (nth args 0)),
   ("known", fun args => do return .ref (known (← heldText (nth args 0)).toString)),
   ("made", fun args => do newInstance (← heldClass (nth args 0)) (.stream (args.drop 1))),
   ("valued", fun args => do newInstance (← heldClass (nth args 0)) (.value (nth args 1))),
   ("cast", fun args => do newInstance (← heldClass (nth args 0)) (← payloadOf (nth args 1))),
   ("keep", fun args => quietly do if let .ref a := nth args 0 then setPayload a (.stream (args.drop 1))),
   ("refill", fun args => quietly do if let .ref a := nth args 0 then setPayload a (← payloadOf (nth args 1))),
   ("redefault", fun args => quietly do redefault (nth args 0) (nth args 1)),
   ("fling", of1 throw),
   ("resumed", of3 resumed),
   ("real", fun args => .real <$> realArgument (nth args 0)),
   ("bits", fun args => do return .int (← realArgument (nth args 0)).bits.toNat),
   ("imaginary", fun args => do
      valueIn (nth args 0) "complex" (.complex (← realArgument (nth args 1)) (← realArgument (nth args 2)))),
   ("unbits", fun args => do return .real ⟨UInt64.ofNat (← indexOf (nth args 0)).toNat⟩),
   ("space", fun args => do spaceBack (← indexOf (nth args 0))),
   ("handled", fun _ => do return ((← get).handled.head?).getD .none),
   ("modules", fun _ => do newDict ((← get).modules.map fun (name, a) => (.text name, .ref a)))]

def backingFunctions : Natives σ := backingRoutines.map fun (name, f) => (name, fun args _ => f args)

end Counterpart.Script
