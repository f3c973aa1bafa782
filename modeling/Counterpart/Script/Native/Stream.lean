import Counterpart.Script.Native.Dict

/-!
What gives items one by one out of containers. What makes its items out of the items of others is written in the
language of modules.
-/
namespace Counterpart.Script

variable {σ : Type}

def lengthHint (self : Obj) : Run σ Nat := do
  match ← payloadOf self with
  | .iterator items => return items.length
  | .range a b c => return rangeLength a b c
  | .stream (container :: .int place :: _) =>
    if (← typeOf self) = known "list_reverseiterator" then return (place + 1).toNat
    return (← lengthOf container) - place.toNat
  | _ => return 0

def storedNatives : Natives σ :=
  [("__iter__", operator0 fun self => return self),
   ("__next__", operator0 fun self => do
      if let .ref a := self then
        if let some (some item) ← storedItem? a then return item
      raiseBare "StopIteration"),
   ("__length_hint__", nullary "__length_hint__" fun self => .int <$> lengthHint self)]

def newIter : Native σ := ordered [] "iter" 1 2 fun args => do
  match args with
  | [f, stop] =>
    if (← special? f "__call__").isNone then typeError ["iter(v, w): v must be callable"]
    newStream "callable_iterator" [f, stop]
  | args => iteratorOf (args.headD .none)

def nextFor : Native σ := ordered [] "next" 1 2 fun args => do
  let it := args.headD .none
  let some f ← special? it "__next__" | typeError ["'", ← typeName it, "' object is not an iterator"]
  let some other := args[1]? | callSpecial f it []
  attempt (callSpecial f it []) ["StopIteration"] fun _ => return other

end Counterpart.Script
