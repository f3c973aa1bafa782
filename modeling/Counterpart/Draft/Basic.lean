import Counterpart.Interface.Basic

/-!
Drafts: interface definitions in which any field may be absent. A definition is first read into a
draft; a draft without absent fields is an interface, and what is absent can be filled in.
-/
namespace Counterpart.Draft

/-- A list that may be absent, of items that may be absent. -/
abbrev Items (α : Type) := Option (List (Option α))

structure Parameter where
  type : Option Text
  name : Option Text
  deriving DecidableEq, Repr

structure Operation where
  name : Option Text
  params : Items Parameter
  returnType : Option Text
  deriving DecidableEq, Repr

structure Property where
  type : Option Text
  name : Option Text
  access : Option Access
  default : Option Text
  deriving DecidableEq, Repr

structure Enumerator where
  name : Option Text
  value : Option Whole
  deriving DecidableEq, Repr

structure EnumDecl where
  name : Option Text
  enumerators : Items Enumerator
  signed? : Option Bool
  max? : Option Whole
  deriving DecidableEq, Repr

structure RecordDecl where
  name : Option Text
  attributes : Items Parameter
  deriving DecidableEq, Repr

structure ClassDecl where
  name : Option Text
  properties : Items Property
  signals : Items Operation
  slots : Items Operation
  enums : Items EnumDecl
  deriving DecidableEq, Repr

end Draft

structure Draft where
  classes : Draft.Items Draft.ClassDecl
  records : Draft.Items Draft.RecordDecl
  enums : Draft.Items Draft.EnumDecl
  usedEnums : Option (List Text)
  directives : Option (List Text)
  deriving DecidableEq, Repr

namespace Draft

/-! ## Filling in -/

def given (t : Option Text) : Text := t.getD Text.absent

/-- A text as it is shown; an absent one has a word of its own. -/
def shown (t : Option Text) : Text := t.getD "None"

def Items.present {α : Type} (items : Items α) : List α := (items.getD []).filterMap id

def Parameter.fill (p : Parameter) : Counterpart.Parameter := ⟨given p.type, given p.name⟩

def Operation.fill (op : Operation) : Counterpart.Operation :=
  ⟨given op.name, op.params.present.map (·.fill), given op.returnType⟩

/-- A property with its absent fields filled in; without an access it notifies and is not writable. -/
def Property.fill (p : Property) : Counterpart.Property :=
  ⟨given p.type, given p.name, p.access.getD .readonly, given p.default⟩

def Enumerator.fill (e : Enumerator) : Counterpart.Enumerator :=
  ⟨given e.name, e.value.getD .absent⟩

def EnumDecl.fill (e : EnumDecl) : Counterpart.EnumDecl :=
  ⟨given e.name, e.enumerators.present.map (·.fill), e.signed?, e.max?⟩

def RecordDecl.fill (r : RecordDecl) : Counterpart.RecordDecl :=
  ⟨given r.name, r.attributes.present.map (·.fill)⟩

def ClassDecl.fill (c : ClassDecl) : Counterpart.ClassDecl :=
  ⟨given c.name, c.properties.present.map (·.fill), c.signals.present.map (·.fill),
    c.slots.present.map (·.fill), c.enums.present.map (·.fill)⟩

def fill (d : Draft) : Interface :=
  ⟨d.classes.present.map (·.fill), d.records.present.map (·.fill), d.enums.present.map (·.fill),
    d.usedEnums.getD [], d.directives.getD []⟩

/-! ## Interfaces as drafts -/

def Items.full {α β : Type} (f : α → β) (items : List α) : Items β := some (items.map fun a => some (f a))

def Parameter.full (p : Counterpart.Parameter) : Parameter := ⟨some p.type, some p.name⟩

def Operation.full (op : Counterpart.Operation) : Operation :=
  ⟨some op.name, Items.full Parameter.full op.params, some op.returnType⟩

def Property.full (p : Counterpart.Property) : Property :=
  ⟨some p.type, some p.name, some p.access, some p.default⟩

def Enumerator.full (e : Counterpart.Enumerator) : Enumerator := ⟨some e.name, some e.value⟩

def EnumDecl.full (e : Counterpart.EnumDecl) : EnumDecl :=
  ⟨some e.name, Items.full Enumerator.full e.enumerators, e.signed?, e.max?⟩

def RecordDecl.full (r : Counterpart.RecordDecl) : RecordDecl :=
  ⟨some r.name, Items.full Parameter.full r.attributes⟩

def ClassDecl.full (c : Counterpart.ClassDecl) : ClassDecl :=
  ⟨some c.name, Items.full Property.full c.properties, Items.full Operation.full c.signals,
    Items.full Operation.full c.slots, Items.full EnumDecl.full c.enums⟩

def ofInterface (i : Interface) : Draft :=
  ⟨Items.full ClassDecl.full i.classes, Items.full RecordDecl.full i.records,
    Items.full EnumDecl.full i.enums, some i.usedEnums, some i.directives⟩

end Draft
end Counterpart
