import Sgr.CommandLine.Run

/-!
# The program

Collects what a command can ask for from the system, runs it, and writes its streams.
-/

namespace Sgr

/-- The variables that the program reads by name. -/
def settingVariables : List String :=
  ["SGRFMT_CONST_FORMAT", "SGRFMT_COLOR", "SGRFMT_LOG_LEVEL", "NO_COLOR", "FORCE_COLOR"]

/-- The configuration files that a command may read. -/
def candidateFiles (args : List String) : List String :=
  let named := match CommandLine.Command.ofWords args with
    | .ok (.render o) => o.file.toList
    | .ok (.validate file _) => file.toList
    | _ => []
  configNames ++ named.filter (· ≠ "")

/-- What is at a path, if there is anything. -/
def readNode (path : String) : IO (Option FileNode) := do
  match ← (IO.FS.readBinFile path).toBaseIO with
  | .ok bytes => return some (.file bytes.toList)
  | .error (.noFileOrDirectory ..) => return none
  | .error _ => return some .directory

/-- The variables that placeholders in a file ask for. -/
def placeholderVariables : FileNode → List String
  | .directory => []
  | .file bytes =>
    match Text.decode bytes with
    | .ok cs => (Placeholder.segments cs).filterMap (Placeholder.Segment.missing? [])
    | .error _ => []

/-- The files of a command and the variables they ask for. -/
def collectFiles (args : List String) (directory : String) : IO (Files × List String) := do
  let mut files : Files := { directory }
  let mut names := settingVariables
  for path in candidateFiles args do
    if let some node ← readNode path then
      files := { files with nodes := ((files.place path).steps, node) :: files.nodes }
      names := names ++ placeholderVariables node
  return (files, names)

/-- The values of variables. -/
def collectEnv (names : List String) : IO Env := do
  let values ← names.mapM fun name => do
    return (← IO.getEnv name).map fun value => (name, value)
  return values.filterMap id

end Sgr

/-- Runs the words of the command line. Log lines show how long the system has been running, in
milliseconds. -/
def main (args : List String) : IO UInt32 := do
  let directory := (← IO.getEnv "PWD").getD "."
  let (files, names) ← Sgr.collectFiles args directory
  let env ← Sgr.collectEnv names
  let stdout ← IO.getStdout
  let now := toString (← IO.monoMsNow)
  let (outcome, _) := Sgr.CommandLine.run args (← stdout.isTty) { files, env, now }
  stdout.putStr outcome.out
  let stderr ← IO.getStderr
  stderr.putStr outcome.err
  match outcome.failure with
  | some f => stderr.putStr (f.errorClass.name ++ ": " ++ f.message ++ "\n")
  | none => pure ()
  return UInt32.ofNat outcome.status
