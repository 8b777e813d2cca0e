import Sgr.CommandLine.Run
import Sgr.Proofs.Config.Loading
import Sgr.Proofs.Session.Evaluation

/-!
# What a command does to the world

Apart from the settings that a command installs and the log that it sets up, the parts of a command
evaluate and write. So a relation between worlds that evaluation keeps is kept by writing, by
messages, by reported failures, and by all that a rendering command does under its settings.

## Main definitions

* `World.Framed` — a relation that evaluation keeps.
* `RunKeeps` — a part of a command that keeps a relation between worlds.
* `withSettings` — work under the settings that are found.

## Main statements

* `fail_keeps`, `handle_keeps` — reported and handled failures.
* `brushOf_keeps`, `renderText_keeps` — the call of a rendering command.
* `installSettings_eq` — the steps that install the settings.
-/

namespace Sgr

/-- A relation between worlds that evaluation keeps. -/
class World.Framed (R : World → World → Prop) : Prop extends IsPreorder World R where
  of_evolves : ∀ {w w' : World}, w.Evolves w' → R w w'

instance : World.Framed World.Evolves where
  of_evolves h := h

variable {R : World → World → Prop} [World.Framed R] {α : Type}

theorem Evaluates.keeps {x : Action α} (h : Evaluates x) : Keeps R AnyFailure x :=
  fun w => (h w).imp (fun _ => World.Framed.of_evolves) fun _ _ _ => trivial

@[grind ←] theorem Action.lift_keeps {ε : Type} (f : ε → Failure) (r : Except ε α) :
    Keeps R AnyFailure (Action.lift f r) := by
  cases r with
  | error e => exact .throw fun _ => trivial
  | ok a => exact .pure a

theorem renderValue_evaluates (v : Value) : Evaluates (renderValue v) :=
  Keeps.get.bind fun _ => Action.inContext_evaluates (render_asks _)

/-- Looking at the files changes the log alone. -/
theorem Consults.keeps {x : Action α} (h : Consults x) : Keeps R AnyFailure x := by
  intro w
  obtain ⟨log, hlog⟩ := (h.world w).log
  refine ⟨?_, fun _ _ => trivial⟩
  rw [hlog]
  exact World.Framed.of_evolves ⟨.of_eq rfl rfl, rfl, List.prefix_rfl⟩

namespace CommandLine

/-- A relation between the worlds of two states of a command. -/
def Console.Related (R : World → World → Prop) (c c' : Console) : Prop :=
  R c.world c'.world

instance : IsPreorder Console (Console.Related R) where
  refl c := refl_of R c.world
  trans _ _ _ := trans_of R

/-- A part of a command that keeps a relation between worlds. -/
abbrev RunKeeps (R : World → World → Prop) (x : Run α) : Prop :=
  Keeps (Console.Related R) AnyFailure x

/-! ## Parts of commands -/

omit [World.Framed R] in
@[grind ←] theorem attempt_keeps {a : Action α} (h : Keeps R AnyFailure a) :
    RunKeeps R (Run.attempt a) :=
  .modifyGet fun c => (h c.world).state

@[grind ←] theorem perform_keeps {a : Action α} (h : Keeps R AnyFailure a) :
    RunKeeps R (Run.perform a) :=
  (attempt_keeps h).bind fun r => by
    cases r with
    | error f => exact .throw fun _ => trivial
    | ok r => exact .pure r

@[grind ←] theorem exit_keeps (status : Nat) : RunKeeps R (Run.exit status : Run α) :=
  .throw fun _ => trivial

@[grind ←] theorem echo_keeps (s : String) (keep : Option Bool) : RunKeeps R (Run.echo s keep) :=
  .modify fun c => refl_of R c.world

@[grind ←] theorem echoError_keeps (s : String) : RunKeeps R (Run.echoError s) :=
  .modify fun _ => World.Framed.of_evolves ⟨.of_eq rfl rfl, rfl, List.prefix_rfl⟩

/-! ## Messages and failures -/

theorem inColor_evaluates (base : Fin 8) (s : String) : Evaluates (inColor base s) :=
  (callTool_evaluates _ _ _).bind fun v => by
    cases v <;> exact .pure _

theorem errorMessage_evaluates (s : String) : Evaluates (errorMessage s) :=
  (inColor_evaluates 1 _).bind fun _ => .pure _

theorem warningMessage_evaluates (s : String) : Evaluates (warningMessage s) :=
  (inColor_evaluates 3 _).bind fun _ => .pure _

@[grind ←] theorem successMessage_evaluates (s : String) : Evaluates (successMessage s) :=
  inColor_evaluates 2 s

theorem hintMessage_evaluates (s : String) : Evaluates (hintMessage s) :=
  (inColor_evaluates 4 _).bind fun _ => .pure _

@[grind ←] theorem fail_keeps (message : String) : RunKeeps R (fail message : Run α) :=
  (perform_keeps (errorMessage_evaluates message).keeps).bind fun _ =>
    (echoError_keeps _).bind fun _ => exit_keeps 1

@[grind ←] theorem handle_keeps {onFailure : Failure → Run Unit}
    (hfailure : ∀ f, RunKeeps R (onFailure f)) {a : Action α} (h : Keeps R AnyFailure a) :
    RunKeeps R (handle onFailure a) :=
  (attempt_keeps h).bind fun r => by
    cases r with
    | error f =>
      dsimp only
      split
      · exact (hfailure f).bind fun _ => fail_keeps _
      · exact .throw fun _ => trivial
    | ok r => exact .pure r

@[grind ←] theorem recordFailure_keeps (f : Failure) : RunKeeps R (recordFailure f) :=
  perform_keeps (Action.record_evaluates _ _ _).keeps

/-! ## Calls -/

@[grind ←] theorem renderText_keeps (b : Brush) (sigils : String) (content : List String) :
    Keeps R AnyFailure (renderText b sigils content) :=
  (Action.lift_keeps _ _).bind fun _ => (callTool_evaluates _ _ _).keeps.bind fun v =>
    (renderValue_evaluates v).keeps

@[grind ←] theorem brushOf_keeps (style : String) (params : List String)
    {onFailure : Failure → Run Unit} (h : ∀ f, RunKeeps R (onFailure f)) :
    RunKeeps R (brushOf style params onFailure) :=
  (handle_keeps h (Action.lift_keeps _ _)).bind fun t => by
    cases t with
    | family f =>
      dsimp only
      split
      · exact fail_keeps _
      · exact handle_keeps h (Action.lift_keeps _ _)
    | brush b =>
      dsimp only
      split
      · exact .pure b
      · exact fail_keeps _

/-! ## Settings -/

/-- The settings of a file, or of the environment. -/
def settingsAt : Option Place → Action Settings
  | some p => loadSettings p
  | none => settingsFromEnv

/-- Installs settings, and sets up the log for them. -/
def install (level : Option LogLevel) (stream : Nat) (place : Option Place) (s : Settings) :
    Action Settings := do
  useSettings s
  setUpLog (level.getD s.level) stream
  Action.record .debug commandLogger
    ("Using settings " ++ s.text ++ " (config file: " ++ (place.map Place.shown).getD "None" ++ ")")
  return s

/-- Refuses a path without a file, if there is no default file either. -/
def refuseMissing : Option String → Action Unit
  | some path => do
    if (← findConfig (some path)).isNone then throw (.config (.file (.notFound path)))
  | none => pure ()

/-- Goes on with the settings that are found and with the file that they are from. -/
def withSettings (path : Option String) (k : Option Place → Settings → Action Settings) :
    Action Settings := do
  refuseMissing path
  let place ← findConfig path
  let s ← settingsAt place
  k place s

theorem installSettings_eq (file : Option String) (level : Option LogLevel) (stream : Nat) :
    installSettings file level stream =
      withSettings (file.filter (· ≠ "")) (install level stream) := by
  have hrest (path : Option String) : (do
      let place ← findConfig path
      match place with
        | some p => do
          let settings ← loadSettings p
          install level stream place settings
        | none => do
          let settings ← settingsFromEnv
          install level stream place settings) = (do
      let place ← findConfig path
      let s ← settingsAt place
      install level stream place s) := by
    congr 1
    funext place
    cases place <;> rfl
  rw [withSettings, ← hrest]
  rcases hpath : file.filter (· ≠ "") with _ | path
  · rw [installSettings, hpath]
    rfl
  · rw [installSettings, hpath, refuseMissing, bind_assoc]
    dsimp only
    congr 1
    funext place
    split <;> rfl

end CommandLine

end Sgr
