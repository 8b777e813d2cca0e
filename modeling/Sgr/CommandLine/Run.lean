import Sgr.CommandLine.Command
import Sgr.CommandLine.Console
import Sgr.CommandLine.Message
import Sgr.Config.Load

/-!
# Running commands

The rendering command loads its settings from a configuration file or the environment, installs
them, and prints what the styling call returns. It reports the failures that are about its input and
does not handle others.

## Main definitions

* `readParam` — a colour parameter of the command line.
* `render`, `codes`, `list`, `validate` — the commands.
* `run` — a command line.
-/

namespace Sgr.CommandLine

/-- The logger of the commands. -/
def commandLogger : String := "sgrfmt.cli.commands"

/-- A colour parameter: a whole number, a fraction, or text. -/
def readParam (s : String) : Value :=
  match Number.readInt s with
  | .ok i => .int i
  | .error _ =>
    match Number.readDouble? s with
    | some x => .float x
    | none => .text s

/-- Whether the commands handle a failure: one about the grammar, a type, a value, a name, a file
that does not exist, or the configuration. -/
def isHandled (f : Failure) : Bool :=
  match f.errorClass with
  | .grammar | .unsupportedMode | .colorRange | .contentType | .wrongType | .wrongValue
  | .missingKey | .noFile | .undecodable | .invalidConfig => true
  | _ => false

/-- The text of a failure as the commands report it. -/
def failureText (f : Failure) : String :=
  match f with
  | .config (.invalid text) => "Invalid configuration: " ++ text
  | f => f.message

/-- Reports an error and ends the command. -/
def fail {α : Type} (message : String) : Run α := do
  let s ← Run.perform (errorMessage message)
  Run.echoError (s ++ "\n")
  Run.exit 1

/-- Does something and reports its failure, after `onFailure`. -/
def handle {α : Type} (onFailure : Failure → Run Unit) (a : Action α) : Run α := do
  match ← Run.attempt a with
  | .ok r => return r
  | .error f =>
    if isHandled f then
      onFailure f
      fail (failureText f)
    else throw (.failure f)

/-- Sets up the log for a level, on a stream. -/
def setUpLog (level : LogLevel) (stream : Nat) : Action Unit :=
  modify fun w => { w with log := w.log.configure w.now level.code Layout.standard stream }

/-- The settings of the configuration file, or of the environment if there is no file. They are
installed, and the log is set up. -/
def installSettings (file : Option String) (level : Option LogLevel) (stream : Nat) :
    Action Settings := do
  let path := (file.filter (· ≠ ""))
  if let some path := path then
    if (← findConfig (some path)).isNone then throw (.config (.file (.notFound path)))
  let place ← findConfig path
  let settings ← match place with
    | some p => loadSettings p
    | none => settingsFromEnv
  useSettings settings
  setUpLog (level.getD settings.level) stream
  Action.record .debug commandLogger
    ("Using settings " ++ settings.text ++ " (config file: "
      ++ (place.map Place.shown).getD "None" ++ ")")
  return settings

/-- The brush of a family's parameters on the command line. -/
def bindParams (f : ColorFamily) (params : List String) : Action Brush :=
  Action.lift .family (f.bind (params.map readParam))

/-- Puts a failure on record. -/
def recordFailure (f : Failure) : Run Unit :=
  Run.perform (Action.record .debug commandLogger ("Render failed: " ++ f.repr))

/-- The brush that a style and its parameters name. A brush takes no parameters and a family needs
them. -/
def brushOf (style : String) (params : List String) (onFailure : Failure → Run Unit) :
    Run Brush := do
  match ← handle onFailure (Action.lift .call (Tool.lookup style)) with
  | .family f =>
    if params.isEmpty then fail (f.name ++ " needs color parameters (--param)")
    else handle onFailure (bindParams f params)
  | .brush b =>
    if params.isEmpty then return b else fail (style ++ " takes no color parameters")

/-- The text of a call with sigils and content. -/
def renderText (b : Brush) (sigils : String) (content : List String) : Action String := do
  let sigils ← Action.lift .sigil (Sigil.tokenize sigils)
  let v ← callTool (.brush b) (sigils.map .sigil ++ content.map .text) []
  renderValue v

/-- Whether a colour setting keeps the escape sequences of output that goes to no terminal. -/
def keepsSequences (env : Env) (setting : String) : Bool :=
  if setting = "always" then true
  else if setting = "never" then false
  else (env.get? "NO_COLOR").isNone && (env.get? "FORCE_COLOR").isSome

/-- Renders text in a style. -/
def render (o : RenderOptions) : Run Unit := do
  let settings ← handle recordFailure (installSettings o.file o.level (← get).stream)
  let b ← brushOf o.style o.params recordFailure
  let text ← handle recordFailure (renderText b o.sigils o.content)
  let keep := keepsSequences (← get).world.env (o.color.getD (Text.lower settings.color))
  Run.echo (if o.newline then text ++ "\n" else text) (some keep)

/-- Parameters with semicolons. -/
def paramText (params : List Nat) : String :=
  ";".intercalate (params.map fun (n : Nat) => Number.decimal n)

/-- Shows the parameters of a style. -/
def codes (o : CodesOptions) : Run Unit := do
  let skip : Failure → Run Unit := fun _ => pure ()
  let b ← match ← handle skip (Action.lift .call (Tool.lookup o.style)) with
    | .family f =>
      if o.params.isEmpty then fail (f.name ++ " needs color parameters (--param)")
      else handle skip (bindParams f o.params)
    | .brush b => pure b
  let modes ← handle skip (prefixModes o.sigils none)
  let r ← handle skip (Action.lift .kind (b.resolve (some modes.revert)))
  Run.echo ("set:    " ++ paramText r.set ++ "\n") none
  Run.echo ("reset:  " ++ (if r.reset.isEmpty then "-" else paramText r.reset) ++ "\n") none
  Run.echo ("groups: " ++ Text.commaList (r.groups.map RevertGroup.name) ++ "\n") none

/-- The groups of a brush or a family. -/
def groupsOf : Tool → List RevertGroup
  | .family f => [f.group]
  | .brush b => (Resolution.ofKinds b.kinds b.modes.revert).groups

/-- A line of the list: a label, which may be styled, and the groups behind it in a column. -/
def listLine (t : Tool) (preview : Bool) : Action String := do
  let label := match t with
    | .family f => f.name ++ "[...]"
    | .brush b => b.name
  let gap := "".pushn ' ' (max 1 (22 - label.length))
  let shown ← match t with
    | .family _ => pure label
    | .brush b =>
      if preview then
        match ← callTool (.brush b) [.text label] [] with
        | .text styled => pure styled
        | v => pure v.str
      else pure label
  return shown ++ gap ++ Text.commaList ((groupsOf t).map RevertGroup.name)

/-- Lists the brushes and families. -/
def list (preview : Bool) : Run Unit := do
  for t in Tool.all do
    let line ← Run.perform (listLine t preview)
    Run.echo (line ++ "\n") (if preview then some true else none)

/-- Validates a configuration file. Violations are an error only if the command is strict. -/
def validate (file : Option String) (strict : Bool) : Run Unit := do
  match ← Run.perform (findConfig file) with
  | none => fail "No configuration file found"
  | some place =>
    Run.echo ("Validating configuration: " ++ place.shown ++ "\n") none
    match ← Run.attempt (loadResolved place) with
    | .error f =>
      if f.errorClass = .noFile || f.errorClass = .wrongValue || f.errorClass = .undecodable then
        fail ("Failed to load configuration: " ++ f.message)
      else throw (.failure f)
    | .ok config =>
      match Schema.configuration.violations config with
      | [] =>
        let s ← Run.perform (successMessage "Success! The configuration is valid.")
        Run.echo (s ++ "\n") none
      | violations =>
        let s ← Run.perform (errorMessage
          ("Configuration validation failed (" ++ Number.decimal violations.length
            ++ " errors):"))
        Run.echo (s ++ "\n") none
        for v in violations do
          let s ← Run.perform (hintMessage (v.pathText ++ ": " ++ v.message))
          Run.echo (s ++ "\n") none
        if strict then Run.exit 1
        let s ← Run.perform
          (warningMessage "Use --strict to exit with an error code on validation failures")
        Run.echo (s ++ "\n") none

/-- Runs a command. -/
def runCommand : Command → Run Unit
  | .version => Run.echo (program ++ ", version " ++ version ++ "\n") none
  | .help => Run.echo (programUsage ++ "\n") none
  | .render o => render o
  | .codes o => codes o
  | .list preview => list preview
  | .validate file strict => validate file strict

/-- Whether running a command starts by silencing the log. -/
def startsSilent : Except CommandError Command → Bool
  | .ok .version | .ok .help => false
  | .ok _ => true
  | .error e => e.inCommand

/-- Runs the words behind the program's name. -/
def runWords (args : List String) : Run Unit := do
  let command := Command.ofWords args
  if startsSilent command then Run.perform (setUpLog .none (← get).stream)
  match command with
  | .ok c => runCommand c
  | .error e =>
    Run.echoError e.text
    Run.exit 2

/-- The result of the words behind the program's name. Control sequences in the output are kept or
not where the command leaves it open. -/
def run (args : List String) (keepsControl : Bool) (world : World) : Outcome × World :=
  Run.result (runWords args) world keepsControl

end Sgr.CommandLine
