import Sgr.Failure

/-!
# The state of a session

Operations share a context, which is the active settings, the environment and the log, and the files
and the cells of values.

An action may change the state and may fail; what it did up to then stays done.

## Main definitions

* `World` — the state.
* `Action` — what changes it.
* `Action.inContext` — an action that touches the context alone.
* `useSettings`, `resetSettings` — other active settings, or none.
* `newCell`, `shareValue`, `viewValue` — cells.
-/

namespace Sgr

/-- The state that operations share. Streams below `streams` are in use; the first of them collects
the log of a session, and the second is the standard error outside of commands. -/
structure World extends Context where
  files : Files := {}
  store : Store := {}
  streams : Nat := errorStream + 1
  deriving Inhabited

/-- The stream that collects the log of a session. -/
def sessionStream : Nat := 0

/-- A stream that is not in use yet. -/
def World.newStream (w : World) : Nat × World :=
  (w.streams, { w with streams := w.streams + 1 })

/-- What changes the state and may fail. -/
abbrev Action := ExceptT Failure (StateM World)

namespace Action

/-- The result of a computation without effects. -/
def lift {ε α : Type} (f : ε → Failure) : Except ε α → Action α
  | .ok a => pure a
  | .error e => throw (f e)

/-- What touches the context alone. -/
def inContext {ε α : Type} (f : ε → Failure) (a : InContext ε α) : Action α := do
  let (r, context) := a.run.run (← get).toContext
  modify ({ · with toContext := context })
  lift f r

/-- Sends a log record. -/
def record (level : LogLevel) (logger message : String) : Action Unit :=
  modify fun w => { w with toContext := w.toContext.record level logger message }

end Action

/-- The settings that the environment gives. -/
def settingsFromEnv : Action Settings := do
  Action.lift .settings (Settings.ofEnv (← get).env)

/-- Installs settings. -/
def useSettings (s : Settings) : Action Unit :=
  modify ({ · with settings := some s })

/-- Forgets the active settings. -/
def resetSettings : Action Unit :=
  modify ({ · with settings := none })

/-- A new cell. -/
def newCell (v : Value) : Action Value :=
  modifyGet fun w =>
    let (cell, store) := w.store.add v
    (cell, { w with store })

/-- Gives the lists, mappings, deferred texts and undefined numbers in a value cells of their
own. -/
def shareValue (v : Value) : Action Value :=
  modifyGet fun w =>
    let (v, store) := w.store.share v
    (v, { w with store })

/-- A value with its cells looked up. -/
def viewValue (v : Value) : Action Value := do
  return (← get).store.view v

/-- The text of a value, rendered where it is deferred. -/
def renderValue (v : Value) : Action String := do
  Action.inContext .template ((← get).store.viewParts v).render

end Sgr
