import Counterpart.Text.Quoted

/-!
Which sides of a class are emitted.
-/
namespace Counterpart

inductive Mode where
  | replica
  | source
  | merged
  deriving DecidableEq, Repr

namespace Mode

def word : Mode → Text
  | .replica => "replica"
  | .source => "source"
  | .merged => "merged"

def ofWord? (word : Text) : Option Mode := [replica, source, merged].find? fun m => m.word = word

def unknownMessage (word : Text) : Text := Quoted.text word ++ " is not a valid Mode"

def hasReplica (m : Mode) : Bool := m ≠ .source

def hasSource (m : Mode) : Bool := m ≠ .replica

end Mode
end Counterpart
