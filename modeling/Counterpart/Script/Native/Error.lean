import Counterpart.Script.Native.Basic

/-!
The built-in operations of errors. An error holds the arguments that it was made with.
-/
namespace Counterpart.Script

variable {σ : Type}

abbrev Getter (σ : Type) := Obj → Run σ Obj

abbrev Setter (σ : Type) := Obj → Obj → Run σ Unit

def errorArgs (e : Obj) : Run σ (List Obj) := do
  let .tuple args ← plainValue e | return []
  return args

def errorText (e : Obj) : Run σ Text := do
  match ← errorArgs e with
  | [] => return []
  | [o] => strOf o
  | args => return Quoted.tuple (← args.mapM reprVia)

def errorNatives : Natives σ :=
  [("__new__", fun args _ => do
      let .ref a :: given := args | typeError ["BaseException.__new__(): not enough arguments"]
      newInstance a (.value (.tuple given))),
   ("__init__", fun args named => do
      let self := args.headD .none
      if !named.isEmpty then typeError [← typeName self, "() takes no keyword arguments"]
      if let .ref a := self then setPayload a (.value (.tuple (args.drop 1)))
      return .none),
   ("__str__", operator0 fun self => .text <$> errorText self),
   ("__repr__", operator0 fun self => do
      let name ← typeName self
      match ← errorArgs self with
      | [o] => return .text (Text.concat [name, "(", ← reprVia o, ")"])
      | args => return .text (name ++ Quoted.tuple (← args.mapM reprVia)))]

def specialErrorNatives : List (String × Natives σ) :=
  let withNames (names : List Text) : Native σ := fun args named => do
    let self := args.headD .none
    if let some (name, _) := named.find? fun (name, _) => !names.contains name then
      typeError ["'", name, "' is an invalid keyword argument for ", ← typeName self, "()"]
    if let .ref a := self then
      setPayload a (.value (.tuple (args.drop 1)))
      for (name, value) in named do putAttr a ("." ++ name) value
    return .none
  [("KeyError", [("__str__", operator0 fun self => do
      let [o] ← errorArgs self | .text <$> errorText self
      .text <$> reprVia o)]),
   ("AttributeError", [("__init__", withNames ["name", "obj"])]),
   ("NameError", [("__init__", withNames ["name"])]),
   ("ImportError", [("__init__", withNames ["name", "path"])])]

def keptAttr (name : Text) (other : Obj) : Getter σ := fun self => do return (← ownAttr? self name).getD other

def errorGetters : List (String × Getter σ) :=
  [("args", fun self => .tuple <$> errorArgs self),
   ("__cause__", keptAttr ".cause" .none),
   ("__context__", keptAttr ".context" .none),
   ("__traceback__", fun _ => return .none),
   ("__suppress_context__", keptAttr ".suppress" (.truth false))]

def errorSetters : List (String × Setter σ) :=
  let keep (name : Text) : Setter σ := fun self value => do
    if let .ref a := self then putAttr a name value
  let checked (label : Text) (name : Text) : Setter σ := fun self value => do
    if !value.same .none && !(← isA value "BaseException") then
      typeError ["exception ", label, " must be None or derive from BaseException"]
    keep name self value
  [("args", fun self value => do
      if let .ref a := self then setPayload a (.value (.tuple (← itemsOf value)))),
   ("__cause__", fun self value => do
      checked "cause" ".cause" self value
      keep ".suppress" self (.truth true)),
   ("__context__", checked "context" ".context"),
   ("__traceback__", fun _ _ => return ()),
   ("__suppress_context__", fun self value => do keep ".suppress" self (.truth (← truthOf value)))]

/-! ## Handlers of parts -/

def Obj.given? : Obj → Option Obj
  | .none => Option.none
  | o => some o

def groupOperation (name : String) (args : List Obj) : Run σ Obj :=
  call (.native .function "BaseExceptionGroup" name) args

def takenPart (e cls : Obj) : Run σ (Option Obj × Option Obj) := do
  let .tuple [part, rest] ← groupOperation "taken" [e, cls] | return (none, some e)
  return (part.given?, rest.given?)

/-- What is raised after handlers of parts of an error: what they raised, and the part that none of them took or that
was raised again, as it stood in the whole. -/
def gatheredError? (whole : Obj) (raised again : List Obj) : Run σ (Option Obj) := do
  return (← groupOperation "gathered" [whole, .tuple raised, .tuple again]).given?

end Counterpart.Script
