import Counterpart.Script.Native.Function

/-!
Classes that leave methods open.
-/
namespace Counterpart.Script

variable {σ : Type}

def openClassRoutines : Routines σ :=
  [("__new__", fun args => do
      let cls ← newClass [nth args 0, nth args 1, nth args 2, nth args 3] (← spaceOf (nth args 4))
      settleOpenMethods cls
      return cls)]

def markOpen (f : Obj) : Run σ Obj := do
  setAttr f "__isabstractmethod__" (.truth true)
  return f

end Counterpart.Script
