import Counterpart.Emit.PythonModule
import Counterpart.Session.Plain
import Counterpart.Session.Run
import Counterpart.Session.Scripted

/-!
Sessions with any unit or none. What a plain session gives follows from the declarations of its unit; for any
other the module of the unit is run as it is written.
-/
namespace Counterpart.Session

def holdAlone (steps : List Step) : List Outcome :=
  if isPlain {} steps then run {} [] steps else Scripted.run Scripted.bare [] steps

def hold (m : Module) (warnings : List DefaultWarning) (steps : List Step) : Except Trouble (List Outcome) :=
  if isPlain m steps then .ok (run m warnings steps)
  else
    (Scripted.load m.interface (PythonModule.render m.interface m.mode PythonModule.packaged)).map fun w =>
      Scripted.run w (warnings.map (·.message)) steps

end Counterpart.Session
