import Counterpart.Emit.PythonModule
import Counterpart.Emit.QtHeader

/-!
Generated files from drafts. A draft is filled in and rendered, unless a field is absent that the file
needs; the defaults given up before that are still reported.
-/
namespace Counterpart

/-- Why no file can be made: the gap met, and the defaults given up before it. -/
structure Incomplete where
  gap : Gap
  warnings : List DefaultWarning := []
  deriving DecidableEq, Repr

namespace PythonModule

def propertyGap? (i : Interface) (c : ClassDecl) (p : Draft.Property) : Option Gap :=
  match p.default with
  | none => some .default
  | some given => i.obstacle? (some c) p.fill.type given

/-- What keeps a class from being written: a default that cannot be read, or arguments that the replica side has
to hand on. -/
def classGap? (i : Interface) (mode : Mode) (c : Draft.ClassDecl) : Option Gap :=
  c.properties.present.findSome? (propertyGap? i c.fill) <|>
    if mode.hasReplica then c.slots.present.findSome? (·.argumentGap?) else none

/-- The defaults given up in front of the first gap. The first side of its class is not finished, so there they
are given up once. -/
def warningsBefore (i : Interface) (mode : Mode) : List Draft.ClassDecl → List DefaultWarning
  | [] => []
  | c :: rest =>
    if (classGap? i mode c).isNone then sideWarnings i mode c.fill ++ warningsBefore i mode rest
    else
      let read := c.properties.present.takeWhile fun p => (propertyGap? i c.fill p).isNone
      classWarnings i { c with properties := some (read.map some) }.fill

def ofDraft (d : Draft) (mode : Mode) : Except Incomplete (Interface × List DefaultWarning) :=
  match d.typeGap? with
  | some gap => .error ⟨gap, []⟩
  | none =>
    match d.classes.present.findSome? (classGap? d.fill mode) with
    | some gap => .error ⟨gap, warningsBefore d.fill mode d.classes.present⟩
    | none => .ok (d.fill, warnings d.fill mode)

end PythonModule

namespace QtHeader

/-- What a draft lacks to be made a header. Only the source side needs the signatures of signals. -/
def gap? (d : Draft) (mode : Mode) : Option Gap :=
  d.scopeGap? <|> Draft.absent? .items d.directives <|>
    (d.records.present.flatMap fun r => r.attributes.present.map (·.name)).findSome? (Draft.absent? .capital) <|>
    d.classes.present.findSome? fun c =>
      Draft.operationsGap? c.slots <|> (if mode.hasSource then Draft.operationsGap? c.signals else none)

def ofDraft (d : Draft) (mode : Mode) : Except Incomplete Interface :=
  match gap? d mode with
  | none => .ok d.fill
  | some gap => .error ⟨gap, []⟩

end QtHeader
end Counterpart
