import Counterpart.Script.Object

/-!
How arguments reach the parameters of a function.
-/
namespace Counterpart.Script

variable (f : Text) (slots : List Slot)

def positionalSlots : List Slot :=
  slots.filter fun s => s.kind = .positionalOnly || s.kind = .ordinary

def ending (n : Nat) : Text := if n = 1 then [] else "s"

def enumerated : List Text → Text
  | [] => []
  | [a] => a
  | [a, b] => a ++ " and " ++ b
  | [a, b, c] => Text.concat [a, ", ", b, ", and ", c]
  | a :: rest => a ++ ", " ++ enumerated rest

def missingMessage (kind : Text) (names : List Text) : Text :=
  Text.concat [f, "() missing ", Text.ofNat names.length, " required ", kind, " argument", ending names.length, ": ",
    enumerated (names.map Quoted.text)]

def tooManyMessage (f : Text) (slots : List Slot) (given keywordGiven : Nat) : Text :=
  let positional := positionalSlots slots
  let count := positional.length
  let defaults := (positional.filter fun s => s.default?.isSome).length
  let (range, many) : Text × Bool :=
    if defaults = 0 then (Text.ofNat count, count ≠ 1)
    else (Text.concat ["from ", Text.ofNat (count - defaults), " to ", Text.ofNat count], true)
  let extra : Text := if keywordGiven = 0 then []
    else Text.concat [" positional argument", ending given, " (and ", Text.ofNat keywordGiven,
      " keyword-only argument", ending keywordGiven, ")"]
  let verb : Text := if given = 1 && keywordGiven = 0 then "was" else "were"
  Text.concat [f, "() takes ", range, " positional argument", if many then "s" else [], " but ",
    Text.ofNat given, extra, " ", verb, " given"]

def takeNamed (f : Text) (slots : List Slot) (hasRest : Bool) :
    Attrs → Attrs → Attrs → Attrs →
      Except Text (Attrs × Attrs)
  | _, values, left, [] => .ok (values, left)
  | all, values, left, (name, value) :: rest =>
    if slots.any fun s => s.name = name && (s.kind = .ordinary || s.kind = .keywordOnly) then
      if values.any (·.1 = name) then
        .error (f ++ "() got multiple values for argument " ++ Quoted.text name)
      else takeNamed f slots hasRest all (values ++ [(name, value)]) left rest
    else if hasRest then takeNamed f slots hasRest all values (left ++ [(name, value)]) rest
    else
      let only := slots.filter fun s => s.kind = .positionalOnly && all.any (·.1 = s.name)
      if only.isEmpty then .error (f ++ "() got an unexpected keyword argument " ++ Quoted.text name)
      else
        .error (Text.concat [f, "() got some positional-only arguments passed as keyword arguments: ",
          Quoted.text (Text.join ", " (only.map Slot.name))])

/-- The locals that arguments give a function: the named arguments that are left come last, to be made a
dictionary of. -/
structure Bound where
  locals : Attrs
  rest? : Option (Text × Attrs)

def bindArguments (args : List Obj) (named : Attrs) :
    Except Text Bound := do
  let positional := positionalSlots slots
  let given := (positional.zip args).map fun (s, v) => (s.name, v)
  let rest? := (slots.find? (·.kind = .rest)).map Slot.name
  let restNamed? := (slots.find? (·.kind = .restNamed)).map Slot.name
  let (values, left) ← takeNamed f slots restNamed?.isSome named given [] named
  let extra := args.drop positional.length
  if !extra.isEmpty && rest?.isNone then
    let keywordGiven := (slots.filter fun s => s.kind = .keywordOnly && values.any (·.1 = s.name)).length
    throw (tooManyMessage f slots args.length keywordGiven)
  let lacks (s : Slot) : Bool := s.default?.isNone && !values.any (·.1 = s.name)
  let missing := positional.filter lacks
  if !missing.isEmpty then throw (missingMessage f "positional" (missing.map Slot.name))
  let missing := slots.filter fun s => s.kind = .keywordOnly && lacks s
  if !missing.isEmpty then throw (missingMessage f "keyword-only" (missing.map Slot.name))
  let locals := slots.filterMap fun s =>
    match s.kind with
    | .rest => some (s.name, .tuple extra)
    | .restNamed => none
    | _ =>
      match values.find? (·.1 = s.name), s.default? with
      | some (_, v), _ => some (s.name, v)
      | none, some v => some (s.name, v)
      | none, none => none
  return ⟨locals, restNamed?.map fun name => (name, left)⟩

end Counterpart.Script
