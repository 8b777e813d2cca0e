import Sgr.Config.Placeholder
import Sgr.Config.Reading
import Sgr.Config.Schema
import Sgr.Yaml.Document

/-!
# Loading a configuration

A configuration is a file whose document is a mapping. Its placeholders are replaced before it is
judged by the schema, and a configuration that meets the schema is turned into settings.

The file is the one that was asked for, if it exists, and otherwise one of two names in the working
directory.

## Main definitions

* `findConfig` — the file to load.
* `loadConfig`, `loadResolved` — its mapping, as it stands and with its placeholders replaced.
* `loadSettings` — the settings of a file.
-/

namespace Sgr

/-- The logger of this part of the program. -/
def configLogger : String := "sgrfmt.config.parser"

/-- The names of configuration files in the working directory, the first choice first. -/
def configNames : List String := ["sgrfmt.yaml", "sgrfmt.yml"]

/-- Whether there is something at a place. -/
def existsAt (p : Place) : Action Bool := do
  return (← Action.lift (.config ∘ .file) ((← get).files.find? p)).isSome

/-- The file of one of some names in the working directory. -/
def findDefault : List String → Action (Option Place)
  | [] => do
    Action.record .debug configLogger "No config file found"
    return none
  | name :: names => do
    let p := (← get).files.inDirectory name
    if ← existsAt p then
      Action.record .debug configLogger ("Found config file: " ++ p.shown)
      return some p
    else findDefault names

/-- The file that was asked for, if it exists, and otherwise one in the working directory. -/
def findConfig (path : Option String) : Action (Option Place) := do
  match path with
  | none | some "" => findDefault configNames
  | some path =>
    let p := (← get).files.place path
    if ← existsAt p then
      Action.record .debug configLogger ("Using specified config file: " ++ path)
      return some p
    else findDefault configNames

/-- The mapping of a document. One without content is a mapping without entries. -/
def configOf (text : String) : Except ConfigError Value :=
  match Yaml.load text with
  | .error f => .error (.document f)
  | .ok .nothing => .ok (.dict [])
  | .ok (.dict entries) => .ok (.dict entries)
  | .ok v => .error (.notMapping v.shortTypeName)

/-- The mapping of a file. -/
def loadConfig (p : Place) : Action Value := do
  match (← get).files.readText p with
  | .error e =>
    if let .notFound _ := e then Action.record .error configLogger e.message
    throw (.config (.file e))
  | .ok text => Action.lift .config (configOf text)

/-- A value with its placeholders replaced. A variable that is missing is put on record. -/
def resolvePlaceholders (v : Value) : Action Value := do
  let env := (← get).env
  for name in Placeholder.missingIn env v do
    Action.record .warning configLogger ("Environment variable not found: " ++ name)
  return Placeholder.fillValue env v

/-- The mapping of a file with its placeholders replaced. -/
def loadResolved (p : Place) : Action Value := do
  resolvePlaceholders (← loadConfig p)

/-- The settings of a configuration that has to meet the schema. -/
def settingsOf (config : Value) : Action Settings := do
  match Violation.worst? (Schema.configuration.violations config) with
  | some v =>
    Action.record .error configLogger ("Configuration validation error: " ++ v.message)
    throw (.config (.invalid v.message))
  | none => Action.inContext id (Settings.ofConfig config)

/-- The settings of a file. -/
def loadSettings (p : Place) : Action Settings := do
  Action.record .info configLogger ("Loading configuration from " ++ p.shown)
  let settings ← settingsOf (← loadResolved p)
  Action.record .debug configLogger ("Loaded settings: " ++ settings.text)
  return settings

end Sgr
