import Counterpart.Text.Quoted
import Counterpart.Text.Similar

/-!
Command lines: options in front of, between or after arguments. A short option may have its value
attached, a long one after an equals sign; an option whose value may be left out takes the next
argument unless that looks like an option.
-/
namespace Counterpart.Command

inductive Takes where
  | nothing
  | value
  | optional (value : Text)
  deriving DecidableEq, Repr

structure OptionSpec where
  long : Text
  short? : Option CodePoint := none
  takes : Takes := .value
  required : Bool := false
  deriving DecidableEq, Repr

inductive UsageError where
  | unknownOption (name : Text) (similar : List Text)
  | missingOption (spec : OptionSpec)
  | missingValue (name : Text)
  | needlessValue (name : Text)
  | extraArguments (args : List Text)
  | unknownCommand (name : Text) (similar : List Text)
  | missingCommand
  deriving DecidableEq, Repr

namespace UsageError

def suggestion : List Text → Text
  | [] => []
  | [word] => Text.concat [" Did you mean ", Quoted.text word, "?"]
  | words => Text.concat [" (Did you mean one of: ", Text.join ", " (words.map Quoted.text), "?)"]

def message : UsageError → Text
  | .unknownOption name similar =>
    Text.concat ["No such option ", Quoted.text name, ".", suggestion similar]
  | .missingOption spec =>
    Text.concat ["Missing option '", spec.long,
      match spec.short? with
      | some c => "' / '-" ++ [c] ++ "'."
      | none => "'."]
  | .missingValue name => "Option " ++ Quoted.text name ++ " requires an argument."
  | .needlessValue name => "Option " ++ Quoted.text name ++ " does not take a value."
  | .extraArguments args =>
    Text.concat ["Got unexpected extra argument", if args.length = 1 then "" else "s", " (",
      Text.join " " args, ")"]
  | .unknownCommand name similar =>
    Text.concat ["No such command ", Quoted.text name, ".", suggestion similar]
  | .missingCommand => "Missing command."

def showsUsage : UsageError → Bool
  | .missingValue _ | .needlessValue _ => false
  | _ => true

end UsageError

/-- What a command line says: options by long name in the order given, then the arguments. -/
structure Parsed where
  options : List (Text × Text)
  args : List Text
  deriving DecidableEq, Repr

namespace Parsed

def cons (spec : OptionSpec) (value : Text) (rest : Parsed) : Parsed :=
  ⟨(spec.long, value) :: rest.options, rest.args⟩

def value? (p : Parsed) (long : Text) : Option Text :=
  (p.options.reverse.find? fun (name, _) => name = long).map (·.2)

def has (p : Parsed) (long : Text) : Bool := (p.value? long).isSome

end Parsed

def looksLikeOption (arg : Text) : Bool := Text.startsWith "-" arg && 1 < arg.length

def takeValue (name : Text) (takes : Takes) (args : List Text) : Except UsageError (Text × List Text) :=
  match takes, args with
  | .nothing, args => .ok ([], args)
  | .value, [] => .error (.missingValue name)
  | .value, arg :: rest => .ok (arg, rest)
  | .optional value, [] => .ok (value, [])
  | .optional value, arg :: rest => if looksLikeOption arg then .ok (value, arg :: rest) else .ok (arg, rest)

def cutEquals (arg : Text) : Text × Option Text :=
  let name := arg.takeWhile (· ≠ CodePoint.ofChar '=')
  (name, if name.length < arg.length then some (arg.drop (name.length + 1)) else none)

/-- The letters of short options one after another; the first that takes a value takes the rest. -/
def shortOptions (specs : List OptionSpec) (args : List Text) :
    Text → Except UsageError (List (OptionSpec × Text) × List Text)
  | [] => .ok ([], args)
  | c :: rest =>
    match specs.find? fun s => s.short? = some c with
    | none => .error (.unknownOption ['-', c] [])
    | some spec =>
      if spec.takes = .nothing then
        (shortOptions specs args rest).map fun (found, left) => ((spec, []) :: found, left)
      else
        (takeValue ['-', c] spec.takes (if rest.isEmpty then args else rest :: args)).map
          fun (value, left) => ([(spec, value)], left)

/-- Reads an option that begins with `arg`. `--help`, which every command has too, only prints a text; it is one of the
suggestions and is else left out. -/
def option (specs : List OptionSpec) (arg : Text) (args : List Text) :
    Except UsageError (List (OptionSpec × Text) × List Text) :=
  let (name, value?) := cutEquals arg
  match specs.find? fun s => s.long = name with
  | some spec =>
    match spec.takes, value? with
    | .nothing, some _ => .error (.needlessValue name)
    | _, _ =>
      (takeValue name spec.takes (value?.toList ++ args)).map fun (value, left) => ([(spec, value)], left)
  | none =>
    if Text.startsWith "--" arg then
      .error (.unknownOption name (Text.suggestions (("--help" : Text) :: specs.map (·.long)) name))
    else shortOptions specs args (arg.drop 1)

/-- Reads a command line. Unless options may stand after arguments, the first argument ends the
options. The fuel bounds the number of arguments looked at. -/
def parse (specs : List OptionSpec) (interspersed : Bool) : Nat → List Text → Except UsageError Parsed
  | 0, args => .ok ⟨[], args⟩
  | _, [] => .ok ⟨[], []⟩
  | fuel + 1, arg :: args =>
    if arg = "--" then .ok ⟨[], args⟩
    else if looksLikeOption arg then
      match option specs arg args with
      | .error e => .error e
      | .ok (found, left) =>
        (parse specs interspersed fuel left).map fun rest =>
          found.foldr (fun (spec, value) p => p.cons spec value) rest
    else if interspersed then
      (parse specs interspersed fuel args).map fun rest => ⟨rest.options, arg :: rest.args⟩
    else .ok ⟨[], arg :: args⟩

def enough (args : List Text) : Nat := (args.map (·.length + 1)).sum

def parseOptions (specs : List OptionSpec) (args : List Text) : Except UsageError Parsed := do
  let parsed ← parse specs true (enough args) args
  match specs.find? fun s => s.required && !parsed.has s.long with
  | some spec => throw (.missingOption spec)
  | none => if parsed.args.isEmpty then return parsed else throw (.extraArguments parsed.args)

end Counterpart.Command
