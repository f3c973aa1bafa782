import Counterpart.Interface.Resolution
import Counterpart.Value.Convert

/-!
Classes of objects as layers of members. A lineage lists the layers of a class, the class itself
first; a member is found in the first layer that has its name.
-/
namespace Counterpart

inductive Method where
  | cached (ordinal : Nat) (expected : Hint) (property : Text)
  | write (ordinal : Nat) (param : Text)
  /-- Asks the other side to run a slot; a reply is expected if there is a type to return. -/
  | invoke (ordinal : Nat) (params : List Text) (returnType? : Option Text)
  /-- Left to the classes that derive. -/
  | declared
  | stored (property : Text)
  /-- Writes the value that a source keeps for a property and tells those who listen. -/
  | assign (param property change : Text)
  /-- Runs a slot: notes its arguments and returns a value. -/
  | answer (slot : Text) (result : Value)
  | update
  | lookUp
  | plain

inductive Member where
  | signal (types : List Text)
  | method (m : Method)
  | shared
  | value (v : Value)
  | builtin
  | alias (cls : Text)

namespace Member

def isSignal : Member → Bool
  | .signal _ => true
  | _ => false

def isMethod : Member → Bool
  | .method _ => true
  | _ => false

def isCallable : Member → Bool
  | .method _ | .shared | .builtin | .alias _ => true
  | .signal _ | .value _ => false

def isDeclared : Member → Bool
  | .method .declared => true
  | _ => false

def lacks (name : Text) : Member → Fault
  | .signal _ => .noAttribute "Signal" name
  | .method _ | .shared => .noAttribute "function" name
  | .value v => v.lacks name
  | .builtin => .noAttribute "builtin_function_or_method" name
  | .alias _ => .bareAttribute name

end Member

structure Layer where
  name : Text
  /-- Tells apart classes of one name. -/
  serial : Nat := 0
  /-- The name of the remote type, if this layer sets it. -/
  remoteType? : Option Text := none
  /-- The names of remote properties, if this layer sets them. -/
  properties? : Option (List Text) := none
  /-- What the names are bound to, in the order of first binding. -/
  members : List (Text × Member) := []
  /-- No object is made of a class that derives from it while methods are left open. -/
  closes : Bool := false

namespace Layer

def same (a b : Layer) : Bool := a.name = b.name && a.serial = b.serial

def root : Layer where
  name := "object"

def abstractBase : Layer where
  name := "ABC"
  closes := true

def sourceBase : Layer where
  name := "SourceBase"
  remoteType? := some []
  properties? := some []

def replicaBase : Layer where
  name := "ReplicaBase"
  remoteType? := some []
  members := [("set_property", .method .update)]

def lookUps : List (Text × List Text) :=
  [("name", []), ("type_name", []), ("property_count", []), ("signal_count", []), ("method_count", []),
   ("source_property_index", ["index"]), ("source_signal_index", ["index"]), ("source_method_index", ["index"]),
   ("signal_parameter_count", ["index"]), ("signal_parameter_type", ["sig_index", "param_index"]),
   ("method_parameter_count", ["index"]), ("method_parameter_type", ["method_index", "param_index"]),
   ("property_index_from_signal", ["index"]), ("property_raw_index_from_signal", ["index"]),
   ("signal_signature", ["index"]), ("method_signature", ["index"]), ("method_type", ["index"]),
   ("method_return_type", ["index"]), ("count", ["kind"]), ("source_index", ["kind", "index"]),
   ("parameter_count", ["kind", "index"]), ("parameter_type", ["kind", "index", "param_index"]),
   ("signature", ["kind", "index"])]

def descriptorBase : Layer where
  name := "SourceApiMap"
  members := lookUps.map fun (name, _) => (name, .method .lookUp)

end Layer

abbrev Lineage := List Layer

namespace Lineage

def sourceBase : Lineage := [Layer.sourceBase, Layer.abstractBase, Layer.root]

def replicaBase : Lineage := [Layer.replicaBase, Layer.root]

def descriptorBase : Lineage := [Layer.descriptorBase, Layer.root]

def className (l : Lineage) : Text := (l.head?.map (·.name)).getD []

def lookup? (l : Lineage) (name : Text) : Option (Text × Member) :=
  l.findSome? fun layer => (Keyed.get? name layer.members).map fun member => (layer.name, member)

def member? (l : Lineage) (name : Text) : Option Member := (l.lookup? name).map (·.2)

def knows (l : Lineage) (name : Text) : Bool := (l.member? name).isSome

def typeName (l : Lineage) : Text :=
  match l.findSome? (·.remoteType?) with
  | some (c :: rest) => c :: rest
  | _ => l.className

/-- The names that are left to the classes that derive, in the order of their code points. -/
def undefined (l : Lineage) : List Text :=
  if l.any (·.closes) then
    let names := (l.flatMap fun layer => Keyed.keys layer.members).eraseDups
    (names.filter fun name => (l.member? name).any Member.isDeclared).mergeSort fun a b => !Text.before b a
  else []

/-! ## Several bases -/

def inSomeTail (lists : List Lineage) (layer : Layer) : Bool :=
  lists.any fun l => l.tail.any (Layer.same layer)

def dropHead (layer : Layer) (lists : List Lineage) : List Lineage :=
  (lists.map fun l =>
    match l with
    | first :: rest => if first.same layer then rest else first :: rest
    | [] => []).filter (!·.isEmpty)

def heads (lists : List Lineage) : List Text :=
  ((lists.filterMap (·.head?)).foldl (fun sofar layer =>
    if sofar.any (Layer.same layer) then sofar else sofar ++ [layer]) []).map (·.name)

/-- Merges lists of layers so that each keeps its order: again and again the first head that comes
after the first in no list. -/
def merge : Nat → List Lineage → Except Fault Lineage
  | 0, lists => if lists.isEmpty then .ok [] else .error (.inconsistentBases (heads lists))
  | fuel + 1, lists =>
    if lists.isEmpty then .ok []
    else
      match lists.findSome? fun l => l.head?.filter fun layer => !inSomeTail lists layer with
      | none => .error (.inconsistentBases (heads lists))
      | some layer => (merge fuel (dropHead layer lists)).map (layer :: ·)

def repeatedBase? : List Lineage → Option Text
  | [] => none
  | l :: rest =>
    match l.head? with
    | some layer =>
      if (rest.filterMap (·.head?)).any (Layer.same layer) then some layer.name else repeatedBase? rest
    | none => repeatedBase? rest

def derive (layer : Layer) (given : List Lineage) : Except Fault Lineage :=
  let bases := if given.isEmpty then [[Layer.root]] else given
  match repeatedBase? bases with
  | some name => .error (.duplicateBase name)
  | none =>
    let lists := (bases ++ [bases.filterMap (·.head?)]).filter (!·.isEmpty)
    (merge (lists.map List.length).sum lists).map (layer :: ·)

end Lineage
end Counterpart
