import Counterpart.Draft.Decode
import Counterpart.Draft.Encode

/-!
The rules that declarations obey, checked in a fixed order so that the first broken rule is the one
reported. Where a rule forbids a repetition, the name reported is the repeated one that comes first.
-/
namespace Counterpart.Draft

def required {α : Type} : Items α → Except LoadError (List α)
  | none => .error .absentList
  | some items =>
    items.mapM fun
      | some a => .ok a
      | none => .error .absentItem

def distinct (names : List (Option Text)) (reject : Text → Rejection) : Except LoadError Unit :=
  match repeated names with
  | [] => .ok ()
  | name :: _ => .error (.rejected (reject (shown name)))

def reservedNames : List Text := ["node", "set_property"]

def isReserved (name : Text) : Bool := reservedNames.contains name || Text.startsWith "_" name

def Property.changeName (p : Property) : Text := shown p.name ++ "Changed"

def Property.notifies (p : Property) : Bool := p.access ≠ some .constant

def EnumDecl.check (scope : Text) (e : EnumDecl) : Except LoadError Unit := do
  let name := scope ++ shown e.name
  if (e.enumerators.getD []).isEmpty then throw (.rejected (.emptyEnum name))
  let enumerators ← required e.enumerators
  distinct (enumerators.map (·.name)) (.repeatedEnumerator name)

def RecordDecl.check (r : RecordDecl) : Except LoadError Unit := do
  let attributes ← required r.attributes
  distinct (attributes.map (·.name)) (.repeatedAttribute (shown r.name))

def Operation.checkParams (kind cls : Text) (op : Operation) : Except LoadError Unit := do
  let params ← required op.params
  distinct (params.map (·.name)) (.repeatedParameter kind cls (shown op.name))

def Operation.checkVoid (cls : Text) (op : Operation) : Except LoadError Unit :=
  if op.returnType = some "void" then .ok () else .error (.rejected (.returningSignal cls (shown op.name)))

def Property.checkChange (cls : Text) (signals : List Operation) (p : Property) : Except LoadError Unit :=
  if p.notifies && signals.any (·.name = some p.changeName) then
    .error (.rejected (.declaredChange cls p.changeName (shown p.name)))
  else .ok ()

def checkMemberName (cls : Text) : Option Text → Except LoadError Unit
  | none => .error .absentName
  | some name => if isReserved name then .error (.rejected (.reservedName cls name)) else .ok ()

def ClassDecl.check (c : ClassDecl) : Except LoadError Unit := do
  let cls := shown c.name
  let properties ← required c.properties
  let signals ← required c.signals
  let slots ← required c.slots
  let enums ← required c.enums
  let propertyNames := properties.map (·.name)
  let signalNames := signals.map (·.name)
  let slotNames := slots.map (·.name)
  distinct propertyNames (.repeatedMember cls "property")
  distinct signalNames (.repeatedMember cls "signal")
  distinct slotNames (.repeatedMember cls "slot")
  distinct (enums.map (·.name)) (.repeatedMember cls "enum")
  properties.forM (Property.checkChange cls signals)
  let members := propertyNames ++ signalNames ++ slotNames
  distinct members (.sharedName cls)
  members.forM (checkMemberName cls)
  slots.forM (Operation.checkParams "Slot" cls)
  signals.forM fun signal => do
    signal.checkParams "Signal" cls
    signal.checkVoid cls
  enums.forM (EnumDecl.check (cls ++ "::"))

def check (d : Draft) : Except LoadError Unit := do
  let classes ← required d.classes
  let records ← required d.records
  let enums ← required d.enums
  distinct (classes.map (·.name) ++ records.map (·.name) ++ enums.map (·.name)) .repeatedDeclaration
  enums.forM (EnumDecl.check [])
  records.forM RecordDecl.check
  classes.forM ClassDecl.check

def ofJson (document : Json) : Except LoadError Draft := do
  let draft ← decode document
  draft.check
  return draft

def load (text : Text) (levels : Nat := Json.levelLimit) : Except LoadError Draft :=
  match Json.read text levels with
  | .error e => .error (.unreadable e)
  | .ok document => ofJson document

end Counterpart.Draft
