import Counterpart.Script.Native.Object
import Counterpart.Script.Native.Bytes
import Counterpart.Script.Native.Stream

/-!
The built-in functions.
-/
namespace Counterpart.Script

variable {σ : Type}

def nth (args : List Obj) (n : Nat) : Obj := args.getD n .none

def isCallable (o : Obj) : Run σ Bool := do return (← special? o "__call__").isSome

def digitsText (base : Nat) (mark : Text) (i : Int) : Text :=
  let digits : Text := (Nat.toDigits base i.natAbs).map CodePoint.ofChar
  Text.concat [if i < 0 then "-" else [], mark, digits]

def objectFunctions : Natives σ :=
  [("repr", single "repr" fun o => .text <$> reprOf o),
   ("ascii", single "ascii" fun o => do return .text (asciiText (← reprOf o))),
   ("hash", single "hash" fun o => .int <$> hashOf o),
   ("id", single "id" fun o => do
      match o with
      | .ref a => return .int (a * 16 + 0x7f0000000000)
      | o => return .int (hashText (← reprOf o)).natAbs),
   ("len", single "len" fun o => .int <$> lengthOf o),
   ("callable", single "callable" fun o => .truth <$> isCallable o),
   ("isinstance", ordered [] "isinstance" 2 2 fun args => .truth <$> isInstance (nth args 0) (nth args 1)),
   ("issubclass", ordered [] "issubclass" 2 2 fun args => .truth <$> isSubclass (nth args 0) (nth args 1)),
   ("getattr", ordered [] "getattr" 2 3 fun args => do
      let name ← nameArgument (nth args 1)
      let some other := args[2]? | getAttr (nth args 0) name
      return (← getAttr? (nth args 0) name).getD other),
   ("hasattr", ordered [] "hasattr" 2 2 fun args => do
      return .truth (← getAttr? (nth args 0) (← nameArgument (nth args 1))).isSome),
   ("setattr", ordered [] "setattr" 3 3 fun args => quietly do
      setAttr (nth args 0) (← nameArgument (nth args 1)) (nth args 2)),
   ("delattr", ordered [] "delattr" 2 2 fun args => quietly do deleteAttr (nth args 0) (← nameArgument (nth args 1)))]

def numberFunctions : Natives σ :=
  [("abs", single "abs" fun o => do
      bySpecial "__abs__" o [] do typeError ["bad operand type for abs(): '", ← typeName o, "'"]),
   ("bin", single "bin" fun o => do return .text (digitsText 2 "0b" (← indexOf o))),
   ("oct", single "oct" fun o => do return .text (digitsText 8 "0o" (← indexOf o))),
   ("hex", single "hex" fun o => do return .text (digitsText 16 "0x" (← indexOf o))),
   ("chr", single "chr" fun o => do
      let i ← indexOf o
      if i < 0 || 0x110000 ≤ i then fail "ValueError" "chr() arg not in range(0x110000)"
      return .text [CodePoint.ofNat i.toNat]),
   ("ord", single "ord" fun o => do
      match (← textOf? o) <|> (← bytesOf? o).map bytePoints with
      | some [c] => return .int c.val
      | some t => typeError ["ord() expected a character, but string of length ", Text.ofNat t.length, " found"]
      | none => typeError ["ord() expected string of length 1, but ", ← typeName o, " found"]),
   ("format", ordered [] "format" 1 2 fun args => do
      let o := nth args 0
      let shown ← bySpecial "__format__" o [args.getD 1 (.text [])] do .text <$> strOf o
      let .text _ ← plainValue shown | typeError ["__format__ must return a str, not ", ← typeName shown]
      return shown)]

def itemFunctions : Natives σ :=
  [("all", single "all" fun o => do
      return .truth (← firstAmong? o fun item => do return if ← truthOf item then none else some ()).isNone),
   ("any", single "any" fun o => do
      return .truth (← firstAmong? o fun item => do return if ← truthOf item then some () else none).isSome),
   ("iter", newIter), ("next", nextFor),
   ("sorted", fun args named => do
      if args.length ≠ 1 then typeError ["sorted expected 1 argument, got ", Text.ofNat args.length]
      newList (← sortItems (← itemsOf (args.headD .none)) named))]

def operatorFunctions : Natives σ :=
  comparisons.map fun (name, op) => (name, fun args _ => compareObjs op (args.headD .none) (args.getD 1 .none))

/-! ## Functions of packages -/

/-- What a function of a package does with the values of its parameters, in their order. -/
abbrev Routine (σ : Type) := List Obj → Run σ Obj

abbrev Routines (σ : Type) := List (String × Routine σ)

def of1 (f : Obj → Run σ Obj) : Routine σ := fun args => f (nth args 0)

def of2 (f : Obj → Obj → Run σ Obj) : Routine σ := fun args => f (nth args 0) (nth args 1)

def of3 (f : Obj → Obj → Obj → Run σ Obj) : Routine σ := fun args => f (nth args 0) (nth args 1) (nth args 2)

def selfSlot (name : Text) : Slot := ⟨.ordinary, name, none⟩

def newWith (cls : String) (payload : Payload) (attrs : Attrs) : Run σ Obj := newObject cls payload attrs

end Counterpart.Script
