import Counterpart.Command.Run

/-!
The program: runs a command line on the files that it names. What is read and written goes through a
directory that holds no more than these files.
-/
namespace Counterpart

def Command.Task.paths : Command.Task → List Text
  | .generate g => [g.input, g.output]
  | .support output _ => [output]
  | .info input _ => [input]

def Directory.ofPaths (paths : List Text) : IO Directory := do
  let here ← IO.currentDir
  let mut files : List (Place × Text) := []
  let mut folders : List Place := []
  for written in paths do
    let path := Path.ofText written
    let root : Root := if Text.startsWith "/" written then .top else .here
    for names in Directory.above path ++ [path] do
      let place := names.foldl (fun (p : Place) (name : Text) => if name = ".." then p.up else p.down name) ⟨root, []⟩
      let found := here / place.text.toString
      if ← found.isDir then folders := folders ++ [place]
      else if ← found.pathExists then
        files := files ++ [(place, Text.ofString (← IO.FS.readFile found))]
  return { files, folders }

def Directory.save (before after : Directory) : IO Unit := do
  let here ← IO.currentDir
  for folder in after.folders do
    IO.FS.createDirAll (here / folder.text.toString)
  for (place, content) in Directory.changed before after do
    IO.FS.writeFile (here / place.text.toString) content.toString

def runProgram (args : List Text) : IO UInt32 := do
  let environment? := (← IO.getEnv "REPGEN_RUNTIME_IMPORT").map Text.ofString
  let paths := match Command.task environment? args with
    | .ok task => task.paths
    | .error _ => []
  let before ← Directory.ofPaths paths
  let (outcome, after) := Command.run environment? args before
  before.save after
  IO.print outcome.output.toString
  for warning in outcome.warnings do
    IO.eprintln warning.message.toString
  if let some (_, message) := outcome.fault? then
    IO.eprintln message.toString
  return outcome.exitCode.toUInt32

end Counterpart

def main (args : List String) : IO UInt32 := Counterpart.runProgram (args.map Counterpart.Text.ofString)
