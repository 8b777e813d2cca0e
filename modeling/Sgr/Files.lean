import Sgr.ErrorClass
import Sgr.Text.Quoted
import Sgr.Text.Utf8

/-!
# Files

The program reads files, which it finds by a path. A path is looked up step by step, and every step
but the last has to lead into a directory. How a path is shown does not depend on what it leads to:
doubled slashes and single dots are left out.

## Main definitions

* `Files` — the files and directories, by the steps that lead to them from the top.
* `Place` — a path as it is shown, with its steps.
* `Files.place`, `Files.inDirectory` — the place of a path, and of a name in the working directory.
* `Files.find?`, `Files.readText` — what is at a place, and the text of a file.
-/

namespace Sgr

/-- What a path can lead to. -/
inductive FileNode where
  | directory
  | file (bytes : List UInt8)
  deriving DecidableEq, Repr, Inhabited

/-- The working directory, and the files and directories by their steps from the top. -/
structure Files where
  directory : String := "/"
  nodes : List (List String × FileNode) := []
  deriving Inhabited

/-- A path: how it is shown, and the steps from the top. -/
structure Place where
  shown : String
  steps : List String
  deriving DecidableEq, Repr, Inhabited

/-- Why a file cannot be read. -/
inductive FileError where
  | notFound (shown : String)
  | isDirectory (shown : String)
  | tooLong (shown : String)
  | undecodable (f : Text.Utf8Fault)
  deriving DecidableEq, Repr, Inhabited

namespace FileError

/-- The text of an error. -/
def message : FileError → String
  | notFound shown => "Configuration file not found: " ++ shown
  | isDirectory shown => "[Errno 21] Is a directory: " ++ Text.quote shown
  | tooLong shown => "[Errno 36] File name too long: " ++ Text.quote shown
  | undecodable f => f.message

/-- The class of an error. -/
def errorClass : FileError → ErrorClass
  | notFound _ => .noFile
  | isDirectory _ => .isDirectory
  | tooLong _ => .system
  | undecodable _ => .undecodable

end FileError

/-- The steps of a path: what stands between its slashes, without the single dots. -/
def stepsOf (path : String) : List String :=
  ((path.toList.splitOn '/').map String.ofList).filter fun s => s ≠ "" && s ≠ "."

/-- The slashes in front of a path that starts at the top. Exactly two of them are kept. -/
def topOf (path : String) : String :=
  match path.toList with
  | '/' :: '/' :: '/' :: _ => "/"
  | '/' :: '/' :: _ => "//"
  | '/' :: _ => "/"
  | _ => ""

/-- How a path is shown. -/
def showPath (path : String) : String :=
  match topOf path ++ "/".intercalate (stepsOf path) with
  | "" => "."
  | s => s

/-- How many bytes the name of a file may have. -/
def longestName : Nat := 255

/-- How many bytes a path may have. -/
def longestPath : Nat := 4095

namespace Files

/-- The steps to the working directory. -/
def top (files : Files) : List String :=
  stepsOf files.directory

/-- The place of a path. -/
def place (files : Files) (path : String) : Place :=
  { shown := showPath path
    steps := if topOf path = "" then files.top ++ stepsOf path else stepsOf path }

/-- The place of a name in the working directory. -/
def inDirectory (files : Files) (name : String) : Place :=
  ⟨files.directory ++ "/" ++ name, files.top ++ [name]⟩

/-- What the steps lead to, none of them upwards. Directories that lead to something exist. -/
def node? (files : Files) (steps : List String) : Option FileNode :=
  match files.nodes.lookup steps with
  | some n => some n
  | none =>
    if steps.isPrefixOf files.top || files.nodes.any (steps.isPrefixOf ·.1) then some .directory
    else none

/-- What steps lead to from a directory that other steps have led to. -/
def walk (files : Files) (here : List String) : List String → Option FileNode
  | [] => files.node? here
  | step :: steps =>
    match files.node? here with
    | some .directory => files.walk (if step = ".." then here.dropLast else here ++ [step]) steps
    | _ => none

/-- Whether one of the steps from a directory has too long a name. Steps behind one that leads
nowhere do not count. -/
def meetsLongName (files : Files) (here : List String) : List String → Bool
  | [] => false
  | step :: steps =>
    match files.node? here with
    | some .directory =>
      longestName < step.utf8ByteSize ||
        files.meetsLongName (if step = ".." then here.dropLast else here ++ [step]) steps
    | _ => false

/-- What is at a place, if anything is, unless a name on the way or the whole path is too long. -/
def find? (files : Files) (p : Place) : Except FileError (Option FileNode) :=
  if longestPath < p.shown.utf8ByteSize || files.meetsLongName [] p.steps then
    .error (.tooLong p.shown)
  else .ok (files.walk [] p.steps)

/-- Files with one more, or with another one in its place. A name that ends in a slash is that of a
directory. -/
def write (files : Files) (name : String) (bytes : List UInt8) : Files :=
  let steps := (files.place name).steps
  let node := if name.toList.getLast? = some '/' then .directory else .file bytes
  { files with nodes := (steps, node) :: files.nodes.filter (·.1 ≠ steps) }

/-- The text of a file. -/
def readText (files : Files) (p : Place) : Except FileError String := do
  match ← files.find? p with
  | none => .error (.notFound p.shown)
  | some .directory => .error (.isDirectory p.shown)
  | some (.file bytes) =>
    match Text.decode bytes with
    | .ok cs => .ok (String.ofList (Text.normalizeBreaks cs))
    | .error f => .error (.undecodable f)

end Files

end Sgr
