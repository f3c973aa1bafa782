import Counterpart.Console.Table
import Counterpart.Draft.Gap
import Counterpart.Interface.EnumPlan
import Counterpart.Interface.Ordinals
import Counterpart.Json.Writer

/-!
What there is to know about an interface: the ordinals of its members and the widths of its enums, as
tables to look at or as JSON.
-/
namespace Counterpart.Info

def enumWidths (i : Interface) : List (Text × Text) :=
  Keyed.ofList (i.enums.map (fun e => (e.name, e.plan.wire.name)) ++
    i.classes.flatMap fun c => c.enums.map fun e =>
      (Text.concat [c.name.shown, "::", e.name.shown], e.plan.wire.name))

/-! ## JSON -/

def members (named : List (Text × Json)) : Json :=
  .obj ((Keyed.ofList named).map fun (name, value) => (if name = Text.absent then "null" else name, value))

def classJson (c : ClassDecl) : Json :=
  let o := c.ordinals
  .obj [
    ("properties", .arr (o.properties.map fun p => .str p.property.name)),
    ("signals", .arr (o.signals.map fun s => .obj [("name", .str s.name), ("signature", .str s.signature),
      ("property", match s.property? with
        | some n => .int n
        | none => .null)])),
    ("methods", .arr (o.methods.map fun m => .obj [("name", .str m.slot.name),
      ("signature", .str m.slot.signature), ("return_type", .name m.slot.returnType)]))]

def json (i : Interface) : Json :=
  .obj [
    ("classes", members (i.classes.map fun c => (c.name, classJson c))),
    ("enums", members ((enumWidths i).map fun (name, wire) => (name, .str wire))),
    ("pods", members (i.records.map fun r => (r.name, Json.arr (r.attributes.map fun a => .name a.name))))]

def jsonGap? (d : Draft) : Option Gap := d.enumGap? <|> d.ordinalGap?

/-! ## Tables -/

abbrev Page := Except (FaultKind × Text) Text

def page : Except Console.MarkupError (List Text) → Page
  | .ok lines => .ok (Text.lines lines)
  | .error e => .error (e.kind, e.message)

def heading (t : Text) : Page := page (Console.paragraph (Text.concat ["[bold cyan]", t, "[/bold cyan]"]))

def row (kind : Text) (ordinal : Nat) (member note : Text) : List Text :=
  [kind, Text.ofNat ordinal, member, note]

def rows (c : ClassDecl) : List (List Text) :=
  let o := c.ordinals
  o.properties.map (fun p => row "property" p.ordinal p.property.name p.property.access.word) ++
  o.signals.map (fun s => row "signal" s.ordinal s.signature
    (match s.property? with
    | some n => "property " ++ Text.ofNat n
    | none => [])) ++
  o.methods.map fun m => row "method" m.ordinal m.slot.signature ("-> " ++ m.slot.returnType.shown)

def memberColumns : List Console.Column := [{}, { toTheRight := true }, {}, {}]

def classTable (c : ClassDecl) : List Page :=
  [page (Console.table memberColumns (["Kind", "Ordinal", "Member", "Notes"] :: rows c)), .ok (Text.lines [[]])]

def enumColumns : List Console.Column := [{ before := 2 }, { before := 2 }]

def enumTable (i : Interface) : List Page :=
  let widths := enumWidths i
  if widths.isEmpty then []
  else [heading "Enums", page (Console.table enumColumns (widths.map fun (name, wire) => [if name = Text.absent then [] else name, wire]))]

def gapPage (gap : Gap) : Page := .error (gap.kind, gap.message)

def classPages (c : Draft.ClassDecl) : List Page :=
  heading c.fill.name.shown ::
    match c.tableGap? with
    | some gap => [gapPage gap]
    | none => classTable c.fill

def pages (d : Draft) : List Page :=
  d.classes.present.flatMap classPages ++
    match d.enumGap? with
    | some gap => [gapPage gap]
    | none => enumTable d.fill

end Counterpart.Info
