import Sgr.Log
import Sgr.Settings

/-!
# What a call can ask for

A styling call may ask for the active settings and write to the log, and so may a template that is
filled. The settings are read from the environment the first time they are asked for, and stay until
others are installed or they are forgotten.

## Main definitions

* `Context` — settings, environment and log.
* `InContext` — what works in a context and may fail.
* `logRecord` — sends a log record.
* `activeSettings` — the active settings.
-/

namespace Sgr

/-- The active settings, if there are any, the environment that they are read from, and the log,
whose lines show `now` as their time. -/
structure Context where
  settings : Option Settings := none
  env : Env := []
  log : Log := {}
  now : String := ""
  deriving Inhabited

/-- What works in a context and may fail. What it did to the context up to then stays done. -/
abbrev InContext (ε : Type) := ExceptT ε (StateM Context)

/-- A result without effects. -/
def InContext.ofExcept {ε δ α : Type} (f : δ → ε) : Except δ α → InContext ε α
  | .ok a => pure a
  | .error e => throw (f e)

/-- The same work with another form of its failures. -/
def InContext.mapError {ε δ α : Type} (f : δ → ε) (a : InContext δ α) : InContext ε α :=
  a.adapt f

/-- A context with a log record sent. -/
def Context.record (c : Context) (level : LogLevel) (logger message : String) : Context :=
  { c with log := c.log.write c.now ⟨level.code, logger, message⟩ }

/-- Sends a log record. -/
def logRecord {ε : Type} (level : LogLevel) (logger message : String) : InContext ε Unit :=
  modify (·.record level logger message)

/-- The active settings. -/
def activeSettings : InContext SettingsError Settings := do
  match (← get).settings with
  | some s => return s
  | none =>
    let s ← InContext.ofExcept id (Settings.ofEnv (← get).env)
    modify ({ · with settings := some s })
    logRecord .debug "sgrfmt.config" ("Settings initialized from environment: " ++ s.text)
    return s

/-- Whether constant text may be made: as given, or as the active settings say. -/
def mayBeConstant : Option Bool → InContext SettingsError Bool
  | some b => return b
  | none => do return (← activeSettings).constFormat

end Sgr
