import Counterpart.Draft.Basic
import Counterpart.Json.Basic

/-!
Writing a draft as JSON, with every field given and null for what is absent.
-/
namespace Counterpart.Draft

def orNull {α : Type} (encode : α → Json) : Option α → Json
  | none => .null
  | some a => encode a

def encodeItems {α : Type} (encode : α → Json) : Items α → Json :=
  orNull fun items => .arr (items.map (orNull encode))

def encodeWhole : Whole → Json
  | .number i => .int i
  | .truth b => .bool b
  | .absent => .null

def encodeTexts : Option (List Text) → Json := orNull fun ts => .arr (ts.map .str)

def Parameter.encode (p : Parameter) : Json :=
  .obj [("type", orNull .str p.type), ("name", orNull .str p.name)]

def Operation.encode (op : Operation) : Json :=
  .obj [("name", orNull .str op.name), ("params", encodeItems Parameter.encode op.params),
    ("return_type", orNull .str op.returnType)]

def Property.encode (p : Property) : Json :=
  .obj [("type", orNull .str p.type), ("name", orNull .str p.name),
    ("mode", orNull (fun a => .str a.word) p.access), ("default_value", orNull .str p.default)]

def Enumerator.encode (e : Enumerator) : Json :=
  .obj [("name", orNull .str e.name), ("value", orNull encodeWhole e.value)]

def EnumDecl.encode (e : EnumDecl) : Json :=
  .obj [("name", orNull .str e.name), ("params", encodeItems Enumerator.encode e.enumerators),
    ("is_signed", orNull .bool e.signed?), ("max", orNull encodeWhole e.max?)]

def RecordDecl.encode (r : RecordDecl) : Json :=
  .obj [("name", orNull .str r.name), ("attributes", encodeItems Parameter.encode r.attributes)]

def ClassDecl.encode (c : ClassDecl) : Json :=
  .obj [("name", orNull .str c.name), ("properties", encodeItems Property.encode c.properties),
    ("signals", encodeItems Operation.encode c.signals), ("slots", encodeItems Operation.encode c.slots),
    ("enums", encodeItems EnumDecl.encode c.enums)]

def encode (d : Draft) : Json :=
  .obj [("classes", encodeItems ClassDecl.encode d.classes),
    ("pods", encodeItems RecordDecl.encode d.records), ("enums", encodeItems EnumDecl.encode d.enums),
    ("enum_uses", encodeTexts d.usedEnums), ("preprocessor_directives", encodeTexts d.directives)]

end Counterpart.Draft
