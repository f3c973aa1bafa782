import Counterpart.Script.Native.Basic
import Counterpart.Wire.Number

/-!
The built-in operations of numbers.
-/
namespace Counterpart.Script

variable {σ α : Type} (key : String) (o : Obj)

def readInt (quoted : Text) (t? : Option Text) : Run σ Int := do
  match t?.map Numeral.readInteger with
  | some (.ok i) => return i
  | some (.error (.tooLong digits)) => fail "ValueError" (Numeral.tooLongMessage digits)
  | _ => fail "ValueError" ("invalid literal for int() with base 10: " ++ quoted.take 200)

/-- What something stands for that is no number: an integer, or a text that is read. -/
def numberFrom (ofIndex : Int → Run σ α) (read : Text → Option Text → Run σ α) (refusal : Text) : Run σ α := do
  match ← special? o "__index__", ← plainValue o, ← bytesOf? o with
  | some _, _, _ => ofIndex (← indexOf o)
  | none, .text t, _ => read (Quoted.text t) (some t)
  | none, _, some b => read (Quoted.bytes b) (Value.asciiText? b)
  | none, _, none => typeError [refusal, ", not '", ← typeName o, "'"]

def intOf : Run σ Int := do
  if let some (.int i) := o.number? then return i
  match ← special? o "__int__" with
  | some f => intFrom "__int__" f o
  | none => numberFrom o pure readInt "int() argument must be a string, a bytes-like object or a real number"

def truncated (d : Double) : Run σ Int := do
  match d.parts, d.truncate? with
  | .notANumber, _ => fail "ValueError" "cannot convert float NaN to integer"
  | _, some i => return i
  | _, none => fail "OverflowError" "cannot convert float infinity to integer"

def realOfNumber (n : Number) : Run σ Double := do
  match n.toReal with
  | .ok d => return d
  | .error _ => fail "OverflowError" "int too large to convert to float"

def realOf : Run σ Double := do
  let read (quoted : Text) (t? : Option Text) : Run σ Double := do
    (t?.bind Numeral.double?).getDM do fail "ValueError" ("could not convert string to float: " ++ quoted)
  match o.number? with
  | some (.real d) => return d
  | some (.int i) => realOfNumber (.int i)
  | _ =>
    match ← special? o "__float__" with
    | some f =>
      let v ← callSpecial f o []
      let .real d ← plainValue v | typeError [← typeName o, ".__float__ returned non-float (type ", ← typeName v, ")"]
      return d
    | none => numberFrom o (realOfNumber <| .int ·) read "float() argument must be a string or a real number"

def valueIn (cls : Obj) (key : String) (v : Obj) : Run σ Obj := do
  let .ref a := cls | return v
  if a = known key then return v else newInstance a (.value v)

def newInt : Native σ := fun args named => do
  let cls := args.headD .none
  let given := args.drop 1
  if 2 < given.length + named.length then
    typeError ["int() takes at most 2 arguments (", Text.ofNat (given.length + named.length), " given)"]
  let base? := given[1]? <|> nameIn? "base" named
  let i ← match given[0]?, base? with
    | none, none => pure 0
    | none, some _ => typeError ["int() missing string argument"]
    | some o, none => intOf o
    | some o, some base => do
      let .int i ← call (.native .function "int" "based") [o, base] | pure 0
      pure i
  valueIn cls "int" (.int i)

def newTruth : Native σ := orderedMethod [] "bool" 0 1 fun _ given => do .truth <$> truthOf (given.headD .none)

def newReal : Native σ := orderedMethod [] "float" 0 1 fun cls given => do
  valueIn cls "float" (.real (← realOf (given.headD (.int 0))))

def operandOf? : Run σ (Option Number) := do
  match key, ← numberOf? o with
  | "int", some (.int i) => return some (.int i)
  | "int", _ => return none
  | "float", some (.complex ..) => return none
  | _, n? => return n?

def powerOperator (swapped : Bool) : Native σ := fun args _ => do
  checkCount [] 1 2 (args.drop 1)
  let self :: other :: rest := args | return .none
  match ← numberOf? self, ← operandOf? key other, rest.headD .none with
  | some m, some n, .none => ofArithmetic (if swapped then n.apply .power m else m.apply .power n) (return .notImplemented)
  | some m, some n, third =>
    match if swapped then (n, m) else (m, n), ← operandOf? "int" third with
    | (.int i, .int j), some (.int k) => call (.native .function "int" "residue") [.int i, .int j, .int k]
    | (.int _, .int _), _ => return .notImplemented
    | _, _ => typeError ["pow() 3rd argument not allowed unless all arguments are integers"]
  | _, _, _ => return .notImplemented

def onNumbers (f : Number → Number → Run σ Obj) : Native σ := operator1 fun self other => do
  let (some m, some n) := (← numberOf? self, ← operandOf? key other) | return .notImplemented
  f m n

def numberOperator (op : BinaryOp) (swapped : Bool) : Native σ := onNumbers key fun m n =>
  ofArithmetic (if swapped then n.apply op m else m.apply op n) (return .notImplemented)

def numberComparison (op : CompareOp) : Native σ := onNumbers key fun m n =>
  return (comparePlain? op m.toObj n.toObj).getD .notImplemented

def numberNatives : Natives σ :=
  comparisons.map (fun (name, op) => (name, numberComparison key op)) ++
    [("__pow__", powerOperator key false), ("__rpow__", powerOperator key true)] ++
    operators.flatMap fun (name, reflected, op) =>
      [(name, numberOperator key op false), (reflected, numberOperator key op true)]

def heldInt : Run σ Int := do
  let some (.int i) ← numberOf? o | return 0
  return i

def heldReal : Run σ Double := do
  match ← numberOf? o with
  | some (.real d) => return d
  | some (.int i) => realOfNumber (.int i)
  | _ => return Double.zero

def intNatives : Natives σ :=
  let whole : Native σ := operator0 fun self => .int <$> heldInt self
  numberNatives "int" ++
  [("__new__", newInt),
   ("__repr__", operator0 fun self => do return .text (← intText (← heldInt self))),
   ("__hash__", operator0 fun self => do return .int (Number.hashInt (← heldInt self))),
   ("__bool__", operator0 fun self => do return .truth ((← heldInt self) ≠ 0)),
   ("__int__", whole), ("__index__", whole), ("__pos__", whole),
   ("__float__", operator0 fun self => .real <$> heldReal self),
   ("__neg__", operator0 fun self => do return .int (-(← heldInt self))),
   ("__abs__", operator0 fun self => do return .int (← heldInt self).natAbs),
   ("bit_length", nullary "int.bit_length" fun self => do
      let n := (← heldInt self).natAbs
      return .int (if n = 0 then 0 else Nat.log2 n + 1))]

def truthNatives : Natives σ := [("__new__", newTruth)]

def realNatives : Natives σ :=
  let real : Native σ := operator0 fun self => .real <$> heldReal self
  numberNatives "float" ++
  [("__new__", newReal),
   ("__repr__", operator0 fun self => do return .text (← heldReal self).text),
   ("__hash__", operator0 fun self => do return .int (Number.hashReal (← heldReal self))),
   ("__bool__", operator0 fun self => do return .truth !(← heldReal self).isZero),
   ("__int__", operator0 fun self => do return .int (← truncated (← heldReal self))),
   ("__float__", real), ("__pos__", real),
   ("__neg__", operator0 fun self => do return .real (← heldReal self).negated),
   ("__abs__", operator0 fun self => do
      let d ← heldReal self
      return .real (if d.isNegative then d.negated else d))]

def complexNatives : Natives σ :=
  numberNatives "complex" ++ [("__repr__", operator0 fun self => do return .text (← reprOf (← plainValue self)))]

end Counterpart.Script
