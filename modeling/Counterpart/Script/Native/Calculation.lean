import Counterpart.Script.Native.Stream

/-!
Functions of numbers that are those of the machine: roots, powers and logarithms, and angles.
-/
namespace Counterpart.Script

variable {σ α : Type} (log : Float → Float) (name : Text) (canOverflow : Bool) (unit : Float)

/-! ## Arguments -/

def domainError : Run σ α := fail "ValueError" "math domain error"

def rangeError : Run σ α := fail "OverflowError" "math range error"

def realArgument (o : Obj) : Run σ Double := do
  match ← numberOf? o with
  | some (.complex ..) => typeError ["must be real number, not complex"]
  | some n => realOfNumber n
  | none =>
    match ← special? o "__float__" with
    | some f =>
      if let some (.real d) ← numberOf? (← callSpecial f o []) then return d
      typeError [← typeName o, ".__float__() must return a float"]
    | none =>
      if (← special? o "__index__").isSome then realOfNumber (.int (← indexOf o))
      else typeError ["must be real number, not ", ← typeName o]

def checkedResult (finite isNumber : Bool) (f : Float) : Run σ Obj := do
  if f.isNaN && isNumber then domainError
  if f.isInf && finite then if canOverflow then rangeError else domainError
  return .real (.ofFloat f)

def realFunction (f : Float → Float) : Native σ := single ("math." ++ name) fun o => do
  let x := (← realArgument o).toFloat
  checkedResult canOverflow x.isFinite (!x.isNaN) (f x)

def realFunction2 (f : Double → Double → Run σ Obj) : Native σ := ordered "math." name 2 2 fun args => do
  f (← realArgument (args.headD .none)) (← realArgument (args.getD 1 .none))

/-! ## Powers and logarithms -/

def logWhole (i : Int) : Run σ Float := do
  if i ≤ 0 then domainError
  if let some d := Double.ofInt? i then return log d.toFloat
  let bits := i.natAbs.log2 - 60
  return log (Float.ofNat (i.natAbs / 2 ^ bits)) + unit * Float.ofNat bits

def logOf (o : Obj) : Run σ Float := do
  match ← numberOf? o with
  | some (.int i) => logWhole log unit i
  | _ =>
    let x := (← realArgument o).toFloat
    if x ≤ 0 then domainError
    return log x

def powerOfReals (a b : Double) : Run σ Obj := do
  let (x, y) := (a.toFloat, b.toFloat)
  let r := Float.pow x y
  if x.isFinite && y.isFinite then
    if r.isNaN then domainError
    if r.isInf then if x == 0 then domainError else rangeError
  return .real (.ofFloat r)

def mathFunctions : Natives σ :=
  let plain : List (String × Bool × (Float → Float)) :=
    [("sqrt", false, Float.sqrt), ("cbrt", false, Float.cbrt), ("exp", true, Float.exp), ("exp2", true, Float.exp2),
     ("sin", false, Float.sin), ("cos", false, Float.cos), ("tan", false, Float.tan), ("asin", false, Float.asin),
     ("acos", false, Float.acos), ("atan", false, Float.atan), ("sinh", true, Float.sinh), ("cosh", true, Float.cosh),
     ("tanh", false, Float.tanh), ("asinh", false, Float.asinh), ("acosh", false, Float.acosh),
     ("atanh", false, Float.atanh), ("fabs", false, Float.abs),
     ("degrees", false, fun x => x * (180.0 / 3.141592653589793)),
     ("radians", false, fun x => x * (3.141592653589793 / 180.0))]
  let test (name : Text) (f : Float → Bool) : Native σ := single ("math." ++ name) fun o => do
    return .truth (f (← realArgument o).toFloat)
  plain.map (fun (name, canOverflow, f) => (name, realFunction name canOverflow f)) ++
  [("isnan", test "isnan" Float.isNaN), ("isinf", test "isinf" Float.isInf), ("isfinite", test "isfinite" Float.isFinite),
   ("atan2", realFunction2 "atan2" fun a b => return .real (.ofFloat (Float.atan2 a.toFloat b.toFloat))),
   ("pow", realFunction2 "pow" powerOfReals),
   ("log", ordered "math." "log" 1 2 fun args => do
      match ← args.mapM (logOf Float.log 0.6931471805599453) with
      | [x, y] =>
        if y == 0 then fail "ZeroDivisionError" "float division by zero"
        return .real (.ofFloat (x / y))
      | logs => return .real (.ofFloat (logs.headD 0))),
   ("log2", single "math.log2" fun o => do return .real (.ofFloat (← logOf Float.log2 1.0 o))),
   ("log10", single "math.log10" fun o => do return .real (.ofFloat (← logOf Float.log10 0.3010299956639812 o)))]

def writtenMathNames : List String := (rows "math").flatten

def mathConstants : List (Text × Float) :=
  [("pi", 3.141592653589793), ("e", 2.718281828459045), ("tau", 6.283185307179586), ("inf", 1.0 / 0.0),
   ("nan", 0.0 / 0.0)]

end Counterpart.Script
