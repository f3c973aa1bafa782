import Counterpart.Script.Class

/-!
How built-in operations take their arguments.
-/
namespace Counterpart.Script

variable {σ : Type} (label : Text) (o : Obj) (owner : Text) (least : Nat) (name : Text) (args : List Obj)
variable (named : Attrs) (most : Nat)

abbrev Natives (σ : Type) := List (String × Native σ)

def quietly (action : Run σ Unit) : Run σ Obj := do
  action
  return .none

def noNamed : Run σ Unit := do
  if !named.isEmpty then typeError [label, "() takes no keyword arguments"]

def nullary (f : Obj → Run σ Obj) : Native σ := fun args named => do
  noNamed label named
  match args with
  | [self] => f self
  | args => typeError [label, "() takes no arguments (", Text.ofNat (args.length - 1), " given)"]

def unary (f : Obj → Obj → Run σ Obj) : Native σ := fun args named => do
  noNamed label named
  match args with
  | [self, x] => f self x
  | args => typeError [label, "() takes exactly one argument (", Text.ofNat (args.length - 1), " given)"]

def single (f : Obj → Run σ Obj) : Native σ := fun args named => do
  noNamed label named
  match args with
  | [x] => f x
  | args => typeError [label, "() takes exactly one argument (", Text.ofNat args.length, " given)"]

def checkCount (args : List Obj) : Run σ Unit := do
  let given := args.length
  if given < least || most < given then
    let range : Text := if least = most then [] else if given < least then "at least " else "at most "
    let bound := if given < least then least else most
    typeError [label, " expected ", range, Text.ofNat bound, " argument", ending bound, ", got ", Text.ofNat given]

/-- An operation that takes so many arguments, all by their places. -/
def ordered (least most : Nat) (f : List Obj → Run σ Obj) : Native σ := fun args named => do
  noNamed (owner ++ name) named
  checkCount name least most args
  f args

def orderedMethod (least most : Nat) (f : Obj → List Obj → Run σ Obj) : Native σ := fun args named =>
  ordered owner name least most (f (args.headD .none)) (args.drop 1) named

def newBare (payload : Payload) : Native σ := fun args _ => do
  match args.headD .none with
  | .ref a => newInstance a payload
  | o => return o

def miscounted (message : Text) (args : List Obj) : Run σ Obj :=
  typeError [message, ", got ", Text.ofNat (args.length - 1)]

def operator0 (f : Obj → Run σ Obj) : Native σ := fun args _ =>
  match args with
  | [self] => f self
  | args => miscounted "expected 0 arguments" args

def operator1 (f : Obj → Obj → Run σ Obj) (message : Text := "expected 1 argument") : Native σ := fun args _ =>
  match args with
  | [self, x] => f self x
  | args => miscounted message args

def operator2 (f : Obj → Obj → Obj → Run σ Obj) : Native σ := fun args _ =>
  match args with
  | [self, x, y] => f self x y
  | args => miscounted " expected 2 arguments" args

def operatorTimes (f : Obj → Obj → Run σ Obj) : Native σ := operator1 f " expected 1 argument"

/-- The arguments of a built-in function whose parameters have names, each given by its place or by its name; so
many of them are needed. -/
def namedArgs (names : List Text) (least : Nat) (args : List Obj) (named : Attrs) :
    Run σ (List (Option Obj)) := do
  let most := names.length
  let given := args.length + named.length
  if most < given then
    let bound : Text := if least < most then "at most " else "exactly "
    let sort : Text := if args.isEmpty then "keyword " else []
    typeError [label, "() takes ", bound, Text.ofNat most, " ", sort, "argument", ending most, " (", Text.ofNat given,
      " given)"]
  for (name, place) in names.zipIdx do
    if args.length ≤ place && place < least && (nameIn? name named).isNone then
      typeError [label, "() missing required argument '", name, "' (pos ", Text.ofNat (place + 1), ")"]
  for (name, place) in names.zipIdx do
    if place < args.length && (nameIn? name named).isSome then
      typeError ["argument for ", label, "() given by name ('", name, "') and position (", Text.ofNat (place + 1), ")"]
  for (name, _) in named do
    if !names.contains name then typeError ["'", name, "' is an invalid keyword argument for ", label, "()"]
  return names.zipIdx.map fun (name, place) => args[place]? <|> nameIn? name named

def checkGiven (args : List Obj) : Run σ Unit := do
  let given := args.length
  if given < least || most < given then
    let bound := if given < least then least else most
    let range : Text := if least = most then "exactly " else if given < least then "at least " else "at most "
    typeError [label, "() takes ", range, Text.ofNat bound, " argument", ending bound, " (", Text.ofNat given, " given)"]

def argument (place : Nat) (name : Text) (other : Obj) : Obj :=
  (args[place]? <|> nameIn? name named).getD other

def textOf? : Run σ (Option Text) := do
  let .text t ← plainValue o | return none
  return some t

def bytesOf? : Run σ (Option Bytes) := do
  let o ← plainValue o
  match o, ← payloadOf o with
  | .bytes b, _ | _, .buffer b => return some b
  | _, _ => return none

def shownOnce (self : Obj) (instead : Text) (shown : Run σ Text) : Run σ Obj := do
  let .ref a := self | .text <$> shown
  let before := (← get).showing
  if before.contains a then return .text instead
  modify fun w => { w with showing := a :: before }
  .text <$> ensuring (modify fun w => { w with showing := before }) shown

def numberOf? : Run σ (Option Number) := do return (← plainValue o).number?

def comparisons : List (String × CompareOp) :=
  [("__eq__", .eq), ("__ne__", .ne), ("__lt__", .lt), ("__le__", .le), ("__gt__", .gt), ("__ge__", .ge)]

def operators : List (String × String × BinaryOp) :=
  BinaryOp.onNumbers.map fun op => (op.method.toString, op.reflected.toString, op)

def asciiText (t : Text) : Text :=
  t.flatMap fun c =>
    if c.val < 128 then [c]
    else if c.val < 0x100 then "\\x" ++ Text.hex 2 c.val
    else if c.val < 0x10000 then "\\u" ++ Text.hex 4 c.val else "\\U" ++ Text.hex 8 c.val

end Counterpart.Script
