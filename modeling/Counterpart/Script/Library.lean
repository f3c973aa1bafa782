import Counterpart.Script.Package.Texts
import Counterpart.Script.Statement

/-!
What a generated module finds: the built-in classes and those of the support package, and the parameters of their
functions.
-/
namespace Counterpart.Script

def libraryTables : List String := (String.ofList (Packed.unpack 72539 ['\n'] Package.texts)).splitOn "\x01"

def signatureTable : String := libraryTables.getD 0 ""

/-- The attributes of classes that are neither functions nor computed, as constants or by what they are the
same as. -/
def valueTable : String := libraryTables.getD 1 ""

/-- One class after another, first the built-in ones and then those of the support package. The first line of a
class gives its key, its name, its module, its bases, its own class, and marks: `F` for a class that nothing derives
from, `C` for one that cannot be changed, `D` for one whose instances have attributes of their own, `S` for one whose
instances hold something of their own that those of its bases do not. The lines below give attributes after a letter
for their sort. -/
def inventory : String := libraryTables.getD 2 ""

/-- The rows of names that start with a word: what modules hold, which packages there are, and which of them write the
operations of which classes. -/
def rows (kind : String) : List (List String) :=
  ((libraryTables.getD 4 "").splitOn "\n").filterMap fun line =>
    match line.splitOn " " with
    | [] => none
    | word :: names => if word = kind then some names else none

def namedRows (kind : String) : List (String × List String) := (rows kind).map fun names => (names.headD "", names.tail)

def dottedLine (line : String) : String × String × String :=
  let words := line.splitOn " "
  let path := (words.headD "").splitOn "."
  (".".intercalate path.dropLast, path.getLast?.getD "", " ".intercalate (words.drop 1))

def signatureParams : List ((String × String) × List Param) :=
  (signatureTable.splitOn "\n").map fun line =>
    let (owner, name, params) := dottedLine line
    match readExpression (String.join ["lambda ", params, ": 0"]) with
    | .ok (.lambda params _) => ((owner, name), params)
    | _ => ((owner, name), [])

def valueExprs : List ((String × String) × Expr) :=
  (valueTable.splitOn "\n").filterMap fun line =>
    let (owner, name, value) := dottedLine line
    match readExpression value with
    | .ok e => some ((owner, name), e)
    | .error _ => none

end Counterpart.Script
