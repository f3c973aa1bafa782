import Counterpart.Command.Directory
import Counterpart.Command.Info
import Counterpart.Command.Options
import Counterpart.Draft.Check
import Counterpart.Emit.Generate

/-!
The commands: generate a module or a header from a definition, lay out the support package, and show
what there is to know about a definition.
-/
namespace Counterpart.Command

structure Generate where
  language : Text
  input : Text
  output : Text
  mode : Text
  support? : Option Text
  pragmaOnce : Bool
  deriving DecidableEq, Repr

inductive Task where
  | generate (options : Generate)
  | support (output name : Text)
  | info (input : Text) (json : Bool)
  deriving DecidableEq, Repr

/-! ## Command lines -/

def programSpecs : List OptionSpec :=
  [{ long := "--verbose", short? := some 'v', takes := .nothing }]

def generateSpecs : List OptionSpec :=
  [{ long := "--language", short? := some 'l', required := true },
   { long := "--input", short? := some 'i', required := true },
   { long := "--output", short? := some 'o', required := true },
   { long := "--mode", short? := some 'm' },
   { long := "--runtime-import", takes := .optional PythonModule.packaged },
   { long := "--pragma-once", takes := .nothing }]

def supportSpecs : List OptionSpec :=
  [{ long := "--output", short? := some 'o' }, { long := "--name" }]

def infoSpecs : List OptionSpec :=
  [{ long := "--input", short? := some 'i', required := true },
   { long := "--json", takes := .nothing }]

def supportName : Text := "repgen_runtime"

def generateTask (environment? : Option Text) (p : Parsed) : Task :=
  .generate {
    language := (p.value? "--language").getD []
    input := (p.value? "--input").getD []
    output := (p.value? "--output").getD []
    mode := (p.value? "--mode").getD Mode.merged.word
    support? := (p.value? "--runtime-import").or (environment?.filter (!·.isEmpty))
    pragmaOnce := p.has "--pragma-once" }

abbrev Refusal := UsageError × Option Text

def commandNames : List Text := ["gen", "info", "runtime"]

def commandTask (environment? : Option Text) (name : Text) (args : List Text) : Except Refusal Task :=
  let under (result : Except UsageError Task) : Except Refusal Task :=
    result.mapError fun e => (e, some name)
  if name = "gen" then under ((parseOptions generateSpecs args).map (generateTask environment?))
  else if name = "runtime" then
    under ((parseOptions supportSpecs args).map fun p =>
      .support ((p.value? "--output").getD ".") ((p.value? "--name").getD supportName))
  else if name = "info" then
    under ((parseOptions infoSpecs args).map fun p =>
      .info ((p.value? "--input").getD []) (p.has "--json"))
  else .error (.unknownCommand name (Text.suggestions commandNames name), none)

/-- Reads a whole command line. An unknown command that looks like an option is read as one first. -/
def task (environment? : Option Text) (args : List Text) : Except Refusal Task :=
  match parse programSpecs false (enough args) args with
  | .error e => .error (e, none)
  | .ok parsed =>
    match parsed.args with
    | [] => .error (.missingCommand, none)
    | name :: rest =>
      if !commandNames.contains name then
        match parse programSpecs false (enough parsed.args) parsed.args with
        | .error e => .error (e, none)
        | .ok _ => commandTask environment? name rest
      else commandTask environment? name rest

def Refusal.text (r : Refusal) : Text :=
  let (error, command?) := r
  let name := match command? with
    | some command => "cli " ++ command
    | none => "cli"
  let usage := if error.showsUsage then
      [Text.concat ["Usage: ", name, if command?.isSome then " [OPTIONS]" else " [OPTIONS] COMMAND [ARGS]..."],
       Text.concat ["Try '", name, " --help' for help."], []]
    else []
  Text.lines (usage ++ ["Error: " ++ error.message])

/-! ## Tasks -/

/-- How a command ended: its exit code, what it printed, the defaults it gave up, and the fault that
ended it early. -/
structure Outcome where
  exitCode : Nat := 0
  output : Text := []
  warnings : List DefaultWarning := []
  fault? : Option (FaultKind × Text) := none
  deriving DecidableEq, Repr

namespace Outcome

def failed (kind : FaultKind) (message : Text) : Outcome :=
  { exitCode := 1, fault? := some (kind, message) }

/-- Prints a text after what has been printed. A text that cannot be encoded ends the command, with
some advice. -/
def printText (advice text : Text) (o : Outcome) : Outcome :=
  if o.fault?.isSome then o
  else
    match SurrogateRun.of? text with
    | some run => { o with exitCode := 1, fault? := some (.encoding, run.message ++ advice) }
    | none => { o with output := o.output ++ text }

def print (line : Text) (o : Outcome) : Outcome := printText [] (Text.lines [line]) o

def advice : Text := "\n*** You may need to add PYTHONIOENCODING=utf-8 to your environment ***"

def printPages : List Info.Page → Outcome → Outcome
  | [], o => o
  | .error fault :: _, o => { o with exitCode := 1, fault? := some fault }
  | .ok text :: rest, o =>
    let o := printText advice text o
    if o.fault?.isSome then o else printPages rest o

def refused (message : Text) : Outcome := print message { exitCode := 1 }

def ofGap (gap : Gap) : Outcome := failed gap.kind gap.message

def incomplete (e : Incomplete) : Outcome := { ofGap e.gap with warnings := e.warnings }

def ofFile (fault : FileFault) : Outcome := failed fault.kind fault.message

end Outcome

def load (d : Directory) (input : Text) : Except Outcome Draft :=
  match d.read input with
  | .error fault => .error (.ofFile fault)
  | .ok text =>
    match Draft.load text d.levels with
    | .ok draft => .ok draft
    | .error e =>
      .error (if e.kind = .invalid then .refused ("Invalid interface definition: " ++ e.message)
        else .failed e.kind e.message)

def generated (g : Generate) (mode : Mode) (draft : Draft) : Except Outcome (Text × List DefaultWarning) :=
  if g.language = "python" then
    match PythonModule.ofDraft draft mode with
    | .ok (i, warnings) => .ok (PythonModule.render i mode (g.support?.getD supportName), warnings)
    | .error e => .error (.incomplete e)
  else if g.language = "cppqt" then
    match QtHeader.ofDraft draft mode with
    | .ok i => .ok (QtHeader.render i mode (if g.pragmaOnce then none else some g.output), [])
    | .error e => .error (.incomplete e)
  else .error (.refused ("Unknown language: " ++ g.language))

def generateFile (g : Generate) (d : Directory) : Outcome × Directory :=
  match Mode.ofWord? g.mode with
  | none => (.refused ("Unknown mode: " ++ g.mode), d)
  | some mode =>
    match load d g.input >>= generated g mode with
    | .error outcome => (outcome, d)
    | .ok (text, warnings) =>
      match d.write g.output text with
      | (d, none) => ({ warnings := warnings }, d)
      | (d, some fault) => ({ Outcome.ofFile fault with warnings := warnings }, d)

def supportFiles : List Text :=
  ["__init__.py", "types.py", "registry.py", "serialization.py", "runtime.py", "meta.py", "descriptor.py"]

def writeEach (start : Text) (folder : Path) : List Text → Directory → Directory × Option FileFault
  | [], d => (d, none)
  | file :: rest, d =>
    match d.write (Directory.written start (folder ++ [file])) [] with
    | (d, none) => writeEach start folder rest d
    | failed => failed

def layOut (output name : Text) (d : Directory) : Outcome × Directory :=
  let (start, path) := if Text.startsWith "/" name then (Directory.slashes name, Path.ofText name)
    else (Directory.slashes output, Path.ofText output ++ Path.ofText name)
  match d.makeFolders start path.length path with
  | (d, some fault) => (.ofFile fault, d)
  | (d, none) =>
    match writeEach start path supportFiles d with
    | (d, some fault) => (.ofFile fault, d)
    | (d, none) =>
      (Outcome.print ("Generated Python runtime in " ++ Directory.written start path) {}, d)

def showInfo (input : Text) (json : Bool) (d : Directory) : Outcome :=
  match load d input with
  | .error outcome => outcome
  | .ok draft =>
    let i := draft.fill
    if json then
      match Info.jsonGap? draft with
      | none => Outcome.print (Info.json i).indented {}
      | some gap => .ofGap gap
    else Outcome.printPages (Info.pages draft) {}

def Task.run (t : Task) (d : Directory) : Outcome × Directory :=
  match t with
  | .generate g => generateFile g d
  | .support output name => layOut output name d
  | .info input json => (showInfo input json d, d)

def escaped (c : CodePoint) : Text := if c.isSurrogate then "\\u" ++ Text.hex 4 c.val else [c]

/-- A text without the sequences that steer a terminal: an escape and a bracket, then digits, semicolons and
question marks, then a letter. The fuel is the length of the text. -/
def withoutControls : Nat → Text → Text
  | 0, t => t
  | _ + 1, [] => []
  | fuel + 1, c :: rest =>
    if c.val = 0x1B && rest.head? = some (CodePoint.ofChar '[') then
      let after := (rest.drop 1).dropWhile fun p =>
        p.isAsciiDigit || p = CodePoint.ofChar ';' || p = CodePoint.ofChar '?'
      match after with
      | letter :: others =>
        if letter.isAsciiLetter then withoutControls fuel others else c :: withoutControls fuel rest
      | [] => c :: withoutControls fuel rest
    else c :: withoutControls fuel rest

def plainLines : Text → Text
  | [] => []
  | [c] => [c]
  | c :: d :: rest =>
    if c = '\r' && d = '\n' then plainLines (d :: rest)
    else c :: plainLines (d :: rest)

def Refusal.shown (r : Refusal) : Text := (withoutControls r.text.length r.text).flatMap escaped

def run (environment? : Option Text) (args : List Text) (d : Directory) : Outcome × Directory :=
  let (outcome, after) : Outcome × Directory := match task environment? args with
    | .error refusal => ({ exitCode := 2, output := refusal.shown }, d)
    | .ok task => task.run d
  ({ outcome with output := plainLines outcome.output }, after)

end Counterpart.Command
