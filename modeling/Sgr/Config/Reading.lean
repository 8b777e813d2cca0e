import Sgr.World

/-!
# Settings of a configuration

A configuration is a mapping with a section for each group of settings. A section that is missing or
empty counts as one without entries, and an entry that is missing has its default. What is read as a
text may be any value; a deferred one is rendered.

## Main definitions

* `levelOf` — a level by name or number.
* `Settings.ofConfig` — the settings of a configuration.
-/

namespace Sgr

/-- A level by name, in any case and with blanks around it, or by number. Nothing at all is the
silent level. -/
def levelOf (v : Value) : Except SettingsError LogLevel :=
  match v with
  | .nothing => .ok .none
  | .bytes _ => .error (.unknownLevel v.repr)
  | v =>
    match v.int?, v.text? with
    | some i, _ =>
      match LogLevel.ofCode? i with
      | some l => .ok l
      | none => .error (.badLevel v.repr)
    | none, some s => readLevel s
    | none, none => .error (.noMember v.typeName "strip")

namespace Settings

/-- The entry of a mapping, or a default. Only mappings have entries. -/
def entry (v : Value) (key : String) (default : Value) : Except SettingsError Value :=
  match v with
  | .dict entries => .ok ((Value.lookup? (.text key) entries).getD default)
  | v => .error (.noMember v.typeName "get")

/-- A section of a configuration; a missing or empty one has no entries. -/
def sectionOf (config : Value) (key : String) : Except SettingsError Value :=
  (entry config key .nothing).map fun v => if v.isEmpty then .dict [] else v

/-- A setting that is on or off, as a truth value or by its text. -/
def switchOf (v : Value) (name : String) : InContext Failure Bool :=
  match v with
  | .bool b => pure b
  | v => do InContext.ofExcept .settings (readSwitch name v.repr (← v.render.mapError .template))

/-- A colour setting. -/
def colorOf (v : Value) : InContext Failure String := do
  InContext.ofExcept .settings (readColor v.repr (← v.render.mapError .template))

/-- The settings of a configuration. -/
def ofConfig (config : Value) : InContext Failure Settings := do
  let read {α : Type} : Except SettingsError α → InContext Failure α :=
    InContext.ofExcept .settings
  let features ← read (sectionOf config "features")
  let output ← read (sectionOf config "output")
  let constFormat ← switchOf (← read (entry features "const_format" (.bool false)))
    "features.const_format"
  let color ← colorOf (← read (entry output "color" (.text "auto")))
  let level ← read (levelOf (← read (entry config "log_level" (.text "none"))))
  return { constFormat, color, level }

end Settings

end Sgr
