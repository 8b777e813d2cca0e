import Sgr.CommandLine.Usage
import Sgr.LogLevel
import Sgr.Settings

/-!
# Commands

The program renders text in a style, shows the parameters of a style, lists what there is, or
validates a configuration file.

## Main definitions

* `RenderOptions`, `CodesOptions`, `Command` — what the program is asked for.
* `Command.ofWords` — the command of the words behind the program's name.
-/

namespace Sgr.CommandLine

/-- The name of the program. -/
def program : String := "sgrfmt"

/-- The version of the program. -/
def version : String := "0.3.0"

/-- What to render, and how. The first part of the content may be a template. -/
structure RenderOptions where
  style : String
  content : List String
  sigils : String := ""
  params : List String := []
  color : Option String := none
  newline : Bool := true
  file : Option String := none
  level : Option LogLevel := none
  deriving DecidableEq, Repr, Inhabited

/-- Which style to show the parameters of. -/
structure CodesOptions where
  style : String
  params : List String := []
  sigils : String := ""
  deriving DecidableEq, Repr, Inhabited

/-- What the program is asked for. -/
inductive Command where
  | version
  | help
  | render (o : RenderOptions)
  | codes (o : CodesOptions)
  | list (preview : Bool)
  | validate (file : Option String) (strict : Bool)
  deriving DecidableEq, Repr, Inhabited

/-- Why there is no command: an error, with the usage of what it is about. Whether a command was
found before its words were read decides if the log was set up already. -/
structure CommandError where
  error : UsageError
  usage : String
  helpFor : String
  inCommand : Bool
  deriving DecidableEq, Repr, Inhabited

namespace CommandError

/-- The lines that are shown for an error. -/
def text (e : CommandError) : String :=
  (if e.error.showsUsage then
    e.usage ++ "\nTry '" ++ e.helpFor ++ " --help' for help.\n\n"
  else "") ++ "Error: " ++ e.error.message ++ "\n"

end CommandError

/-- The option for colour parameters. -/
def paramOption : OptionSpec := ⟨"--param", some "-p", .collected⟩

/-- The option for sigils. -/
def sigilsOption : OptionSpec := ⟨"--sigils", some "-s", .value⟩

/-- The option for a configuration file. -/
def fileOption : OptionSpec := ⟨"--file", some "-f", .value⟩

/-- The option for help, which every command takes. -/
def helpOption : OptionSpec := ⟨"--help", none, .flag⟩

/-- The words of the rendering command. -/
def renderSpec : CommandSpec where
  name := "render"
  options := [sigilsOption, paramOption, ⟨"--color", none, .choice colorChoices⟩,
    ⟨"--no-newline", some "-n", .flag⟩, fileOption,
    ⟨"--log-level", none, .choice (LogLevel.all.map LogLevel.label)⟩, helpOption]
  required := ["STYLE"]
  more := some "CONTENT"

/-- The words of the command that shows parameters. -/
def codesSpec : CommandSpec where
  name := "codes"
  options := [paramOption, sigilsOption, helpOption]
  required := ["STYLE"]

/-- The words of the listing command. -/
def listSpec : CommandSpec where
  name := "list"
  options := [⟨"--preview", none, .flag⟩, helpOption]

/-- The words of the validating command. -/
def validateSpec : CommandSpec where
  name := "validate"
  options := [fileOption, ⟨"--strict", none, .flag⟩, helpOption]

/-- All commands. -/
def specs : List CommandSpec := [renderSpec, codesSpec, listSpec, validateSpec]

/-- The words of the program itself, in front of a command. -/
def programOptions : List OptionSpec := [⟨"--version", none, .flag⟩, helpOption]

/-- The rendering command of its words. -/
def RenderOptions.ofWords (w : Words) : RenderOptions where
  style := w.arguments.headD ""
  content := w.arguments.tail
  sigils := (w.last? "--sigils").getD ""
  params := w.all "--param"
  color := (w.last? "--color").bind (choiceOf? colorChoices)
  newline := !w.has "--no-newline"
  file := w.last? "--file"
  level := ((w.last? "--log-level").bind (choiceOf? (LogLevel.all.map LogLevel.label))).bind
    LogLevel.ofLabel?

/-- The command of the words behind its name. -/
def Command.ofSpec (spec : CommandSpec) (w : Words) : Command :=
  if w.has "--help" then .help
  else match spec.name with
    | "render" => .render (.ofWords w)
    | "codes" =>
      .codes ⟨w.arguments.headD "", w.all "--param", (w.last? "--sigils").getD ""⟩
    | "list" => .list (w.has "--preview")
    | _ => .validate (w.last? "--file") (w.has "--strict")

/-- How the program is used. -/
def programUsage : String :=
  "Usage: " ++ program ++ " [OPTIONS] COMMAND [ARGS]..."

/-- What an option of the program itself asks for. -/
def Command.ofProgram? (w : Words) : Option Command :=
  if w.has "--version" then some .version else if w.has "--help" then some .help else none

/-- The command of the words behind the program's name. A name that no command has is read as an
option if it has the form of one, since it may be one that stands behind a double hyphen. -/
def Command.ofWords (args : List String) : Except CommandError Command := do
  let fail (e : UsageError) : CommandError := ⟨e, programUsage, program, false⟩
  let w ← (readWords programOptions false {} args).mapError fail
  match ofProgram? w, w.arguments with
  | some c, _ => return c
  | none, [] => return .help
  | none, name :: args =>
    match specs.find? (·.name = name) with
    | some spec =>
      let w ← (Words.read spec args).mapError fun e =>
        ⟨e, spec.usage program, program ++ " " ++ spec.name, true⟩
      return .ofSpec spec w
    | none =>
      let w ← (readWords programOptions false {} (name :: args)).mapError fail
      match ofProgram? w with
      | some c => return c
      | none =>
        throw (fail (.noCommand name (Text.similarTo name (specs.map CommandSpec.name))))

end Sgr.CommandLine
