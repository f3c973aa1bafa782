import Counterpart.Fault
import Counterpart.Keyed
import Counterpart.Text.Quoted
import Counterpart.Text.SurrogateRun

/-!
A working directory: files and folders by the places they are at. Paths lead inside it, to the folders
above it, or from the top of the file system. Writing fails where a folder is missing or stands in the
way; a text that cannot be encoded leaves an empty file behind.
-/
namespace Counterpart

inductive FileFault where
  | missing (path : Text)
  | folder (path : Text)
  | notFolder (path : Text)
  | taken (path : Text)
  | tooLong (path : Text)
  | zeroInPath
  | unencodable (run : SurrogateRun)
  deriving DecidableEq, Repr

namespace FileFault

def message : FileFault → Text
  | .missing path => "[Errno 2] No such file or directory: " ++ Quoted.text path
  | .folder path => "[Errno 21] Is a directory: " ++ Quoted.text path
  | .notFolder path => "[Errno 20] Not a directory: " ++ Quoted.text path
  | .taken path => "[Errno 17] File exists: " ++ Quoted.text path
  | .tooLong path => "[Errno 36] File name too long: " ++ Quoted.text path
  | .zeroInPath => "embedded null byte"
  | .unencodable run => run.message

def kind : FileFault → FaultKind
  | .missing _ => .missingFile
  | .folder _ => .directory
  | .notFolder _ => .notDirectory
  | .taken _ => .existingFile
  | .tooLong _ => .system
  | .zeroInPath => .value
  | .unencodable _ => .encoding

end FileFault

/-! ## Paths -/

def CodePoint.isByteMark (c : CodePoint) : Bool := 0xDC80 ≤ c.val && c.val < 0xDD00

def strangeRun? (position : Nat) : Text → Option SurrogateRun
  | [] => none
  | c :: rest =>
    if c.isSurrogate && !c.isByteMark then SurrogateRun.from? position (c :: rest)
    else strangeRun? (position + 1) rest

def CodePoint.pathBytes (c : CodePoint) : Nat :=
  if c.val < 0x80 || c.isByteMark then 1
  else if c.val < 0x800 then 2
  else if c.val < 0x10000 then 3
  else 4

def pathBytes (t : Text) : Nat := (t.map CodePoint.pathBytes).sum

abbrev Path := List Text

def Path.ofText (path : Text) : Path :=
  (path.splitAt '/').filter fun name => !(name.isEmpty || name = ".")

def Path.text (path : Path) : Text := if path.isEmpty then "." else Text.join "/" path

inductive Root where
  | here
  | above (levels : Nat)
  | top
  deriving DecidableEq, Repr

structure Place where
  root : Root := .here
  names : Path := []
  deriving DecidableEq, Repr

namespace Place

def down (p : Place) (name : Text) : Place := { p with names := p.names ++ [name] }

def up (p : Place) : Place :=
  match p.names, p.root with
  | [], .here => ⟨.above 1, []⟩
  | [], .above levels => ⟨.above (levels + 1), []⟩
  | [], .top => p
  | _ :: _, root => ⟨root, p.names.dropLast⟩

def text (p : Place) : Text :=
  match p.root with
  | .here => Path.text p.names
  | .above levels => Text.join "/" (List.replicate levels (Text.ofString "..") ++ p.names)
  | .top => "/" ++ Text.join "/" p.names

def isStanding (p : Place) : Bool :=
  p.names.isEmpty || (p.root = .top && (p.names = Path.ofText "dev" || p.names = Path.ofText "tmp"))

def isSink (p : Place) : Bool := p.root = .top && p.names = Path.ofText "dev/null"

end Place

/-! ## Files and folders -/

structure Directory where
  files : List (Place × Text) := []
  folders : List Place := []
  /-- How deep a document may nest that is read here: so deep as the call stack allows. -/
  levels : Nat := 982
  deriving DecidableEq, Repr

namespace Directory

def above (path : Path) : List Path :=
  (List.range path.length).filterMap fun n => if n = 0 then none else some (path.take n)

def ofFiles (files : List (Text × Text)) : Directory :=
  let files := files.map fun (path, content) => (Path.ofText path, content)
  { files := files.map fun (path, content) => (⟨.here, path⟩, content)
    folders := (files.flatMap fun (path, _) => above path).eraseDups.map fun path => ⟨.here, path⟩ }

def hasFolder (d : Directory) (p : Place) : Bool := p.isStanding || d.folders.contains p

def file? (d : Directory) (p : Place) : Option Text :=
  if p.isSink then some [] else Keyed.get? p d.files

def nameLimit : Nat := 255

def pathLimit : Nat := 4095

def walk (d : Directory) (written : Text) : Place → Path → Except FileFault Place
  | here, [] => .ok here
  | here, name :: rest =>
    if !d.hasFolder here then
      .error (if (d.file? here).isSome then .notFolder written else .missing written)
    else if name = ".." then walk d written here.up rest
    else if nameLimit < pathBytes name then .error (.tooLong written)
    else walk d written (here.down name) rest

def locate (d : Directory) (written : Text) : Except FileFault Place :=
  match strangeRun? 0 written with
  | some run => .error (.unencodable run)
  | none =>
    if written.contains 0 then .error .zeroInPath
    else if written.isEmpty then .error (.missing written)
    else if pathLimit < pathBytes written then .error (.tooLong written)
    else
      d.walk written ⟨if Text.startsWith "/" written then .top else .here, []⟩ (Path.ofText written)

def wantsFolder (written : Text) : Bool :=
  match (written.splitAt '/').getLast? with
  | some last => last.isEmpty || last = "."
  | none => false

def read (d : Directory) (written : Text) : Except FileFault Text := do
  let place ← d.locate written
  if d.hasFolder place then throw (.folder written)
  match d.file? place with
  | none => throw (.missing written)
  | some content => if wantsFolder written then throw (.notFolder written) else return Text.unifyLines content

def put (d : Directory) (p : Place) (content : Text) : Directory :=
  if p.isSink then d else { d with files := Keyed.set p content d.files }

def write (d : Directory) (written content : Text) : Directory × Option FileFault :=
  match d.locate written with
  | .error fault => (d, some fault)
  | .ok place =>
    if d.hasFolder place then (d, some (.folder written))
    else if wantsFolder written then
      (d, some (if (d.file? place).isSome then .notFolder written else .folder written))
    else
      match SurrogateRun.of? content with
      | some run => (d.put place [], some (.unencodable run))
      | none => (d.put place content, none)

def makeFolder (d : Directory) (written : Text) : Directory × Option FileFault :=
  match d.locate written with
  | .error fault => (d, some fault)
  | .ok place =>
    if d.hasFolder place then (d, none)
    else if (d.file? place).isSome then (d, some (.taken written))
    else ({ d with folders := d.folders ++ [place] }, none)

/-- The slashes that a path starts with, as they are kept: two stay two, and any more count as one. -/
def slashes (path : Text) : Text :=
  match (path.takeWhile (· = CodePoint.ofChar '/')).length with
  | 0 => []
  | 2 => "//"
  | _ => "/"

def written (start : Text) (path : Path) : Text :=
  if start.isEmpty then path.text else start ++ Text.join "/" path

/-- Makes a folder and those on the way that are missing. The fuel bounds the length of the way. -/
def makeFolders (start : Text) : Nat → Path → Directory → Directory × Option FileFault
  | 0, path, d => d.makeFolder (written start path)
  | fuel + 1, path, d =>
    match d.makeFolder (written start path) with
    | (d, some (.missing name)) =>
      if path.length ≤ 1 then (d, some (.missing name))
      else
        match makeFolders start fuel path.dropLast d with
        | (d, none) => d.makeFolder (written start path)
        | failed => failed
    | done => done

def changed (before after : Directory) : List (Place × Text) :=
  after.files.filter fun (place, content) => before.file? place ≠ some content

def made (before after : Directory) : List (Text × Text) :=
  (after.files.filter fun (place, _) => place.root = .here && (before.file? place).isNone).map
    fun (place, content) => (place.text, content)

end Directory
end Counterpart
