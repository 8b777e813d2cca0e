import Mathlib
import Sgr.CommandLine.Run
import Sgr.Proofs.CommandLine.Strip
import Sgr.Proofs.Config.Loading
import Sgr.Proofs.Content.Request
import Sgr.Proofs.Context
import Sgr.Proofs.Styling

/-!
# How commands end

A command runs on a console of its own, with a silent log. What it reports of a failure is a message
in colour, so that the report is a styling call that asks for the settings. If there are none to be
had, the command ends with that failure instead of the one that it was about to report.

## Main definitions

* `World.settled` — a world after a question for the settings.
* `World.HasFreshStream` — the stream that a command gets is still empty.
* `ended` — the streams and the status of a command that has run.
* `errorLine` — how a message is written to the standard error.
* `Outcome.reported`, `Outcome.crashed`, `Outcome.failed` — the ends of a command that fails.
* `LeavesNoTrace` — what is done about a failure does nothing to a silent console.

## Main statements

* `run_eq_ended` — running the words of a command runs the command on its console.
* `run_inColor`, `run_map_inColor` — what a message is, and what it asks.
* `ended_fail` — a reported message.
* `run_handle_ok`, `ended_handle` — work whose failure is handled.
-/

namespace Sgr

/-! ## Asking for the settings -/

/-- A world after a question for the settings: those in force are active. -/
def World.settled (w : World) : World :=
  { w with settings := w.active.toOption }

namespace World

variable {w : World}

theorem settled_of_ok {s : Settings} (h : w.active = .ok s) :
    w.settled = { w with settings := some s } := by
  rw [settled, h]
  rfl

theorem settings_of_active_error {e : SettingsError} (h : w.active = .error e) :
    w.settings = none := by
  rcases hs : w.settings with _ | s
  · rfl
  · rw [Context.active_of_settings hs] at h
    cases h

theorem settled_of_error {e : SettingsError} (h : w.active = .error e) : w.settled = w := by
  have hnone := settings_of_active_error h
  have hsame : { w with settings := none } = w := by rw [← hnone]
  rw [settled, h, Except.toOption, hsame]

/-- Nothing was written yet to the stream that the next command gets. -/
def HasFreshStream (w : World) : Prop :=
  w.log.textOf w.streams = ""

end World

/-- A question whether constant text is allowed, while the log is silent. -/
theorem run_enabled_of_silent {w : World} (h : w.log.IsSilent) :
    (Action.inContext .settings (mayBeConstant none)).run.run w =
      ((w.active.map Settings.constFormat).mapError .settings, w.settled) := by
  rw [Action.run_inContext, run_mayBeConstant, run_activeSettings_of_silent h]
  rfl

namespace CommandLine

/-! ## Messages -/

/-- A text in a basic colour, with the sequences around it. -/
def colored (base : Fin 8) (s : String) : String :=
  let r := Resolution.ofKinds [.color (.basic base false .foreground)] .single
  String.ofList (r.opening ++ s.toList ++ r.closing)

section Messages

variable {w : World} (h : w.log.IsSilent)

include h

/-- A message in colour asks for the settings, whatever it says. -/
theorem run_inColor (base : Fin 8) (s : String) :
    (inColor base s).run.run w =
      ((w.active.map fun _ => colored base s).mapError .settings, w.settled) := by
  have hcall (store : Store) (enabled : Bool) :
      (Brush.ofBasic base false .foreground).call store enabled [.text s] [] =
        pure (.text (colored base s)) := by
    have hcheck : Leading.checkContent false [.text s] = .ok () := rfl
    have htext : [s].flatMap String.toList = s.toList := List.flatMap_singleton _ _
    have hrender := render_texts store (.color (.basic base false .foreground)) [] .single [s]
    rw [htext] at hrender
    rw [Brush.call_own (by simp [Value.isLeadingSigil]), hcheck, InContext.ofExcept_ok, pure_bind]
    exact congrArg (InContext.mapError RequestError.failure) hrender
  have henabled := run_enabled_of_silent h
  have htool : (callTool (.brush (.ofBasic base false .foreground)) [.text s] []).run.run w =
      ((w.active.map fun _ => .text (colored base s)).mapError .settings, w.settled) := by
    rw [callTool, refuseNamed_of_not_mem (by simp), pure_bind, run_bind, henabled]
    rcases w.active with e | settings
    · rfl
    · dsimp only [Except.map, Except.mapError]
      rw [run_bind_ok (run_get _), Tool.call, hcall]
      rfl
  rw [inColor, run_bind, htool]
  rcases w.active with e | settings <;> rfl

/-- So does a message with other text around it. -/
theorem run_map_inColor (base : Fin 8) (s : String) (f : String → String) :
    (do return f (← inColor base s) : Action String).run.run w =
      ((w.active.map fun _ => f (colored base s)).mapError .settings, w.settled) := by
  rw [run_bind, run_inColor h]
  rcases w.active with e | settings <;> rfl

end Messages

/-- An error as it is written to the standard error: in colour if control sequences are kept, and
otherwise without any. -/
def errorLine (keeps : Bool) (message : String) : String :=
  if keeps then "\x1b[31mError:\x1b[39m " ++ message ++ "\n"
  else "Error: " ++ stripControl message ++ "\n"

/-- The colour of a message is removed with its other control sequences. -/
theorem stripControl_error (message : String) :
    stripControl (colored 1 "Error:" ++ " " ++ message) = "Error: " ++ stripControl message := by
  have hchars : (colored 1 "Error:" ++ " " ++ message).toList =
      sgr [31] ++ ("Error:".toList ++ (sgr [39] ++ (" ".toList ++ message.toList))) := by
    have hcolored : (colored 1 "Error:").toList = sgr [31] ++ ("Error:".toList ++ sgr [39]) := by
      decide
    rw [String.toList_append, String.toList_append, hcolored]
    simp only [List.append_assoc]
  rw [stripControl, hchars, stripControlChars_sgr, stripControlChars_plain (by simp),
    stripControlChars_sgr, stripControlChars_plain (by simp), stripControl, String.ofList_append,
    String.ofList_append, ← String.append_assoc]
  rfl

/-! ## Ends -/

/-- The streams and the status of a command that has run, and the world that it leaves. -/
def ended (stream : Nat) : Except Stop Unit × Console → Outcome × World
  | (.ok (), c) => (⟨0, c.out, c.world.log.textOf stream, none⟩, c.world)
  | (.error (.exit status), c) => (⟨status, c.out, c.world.log.textOf stream, none⟩, c.world)
  | (.error (.failure f), c) => (⟨1, c.out, c.world.log.textOf stream, some f⟩, c.world)

theorem ended_world (stream : Nat) (r : Except Stop Unit × Console) :
    (ended stream r).2 = r.2.world := by
  rcases r with ⟨(_ | _) | _, c⟩ <;> rfl

/-- The console of the next command. Its log is silent. -/
def consoleOf (w : World) (keeps : Bool) : Console where
  world := { w with
    streams := w.streams + 1
    log := { w.log with
      level := LogLevel.none.code, handlers := [.silent], propagates := false } }
  stream := w.streams
  keepsControl := keeps

/-- The words of a command run the command on its console. -/
theorem run_eq_ended {args : List String} {c : Command} (h : Command.ofWords args = .ok c)
    (hsilent : startsSilent (.ok c)) (keeps : Bool) (w : World) :
    run args keeps w = ended w.streams ((runCommand c).run.run (consoleOf w keeps)) := by
  have hresult (r : Run Unit) : Run.result r w keeps =
      ended w.streams (r.run.run ⟨w.newStream.2, "", w.streams, keeps⟩) := by
    have hstream : w.newStream.1 = w.streams := rfl
    rw [Run.result]
    dsimp only
    rw [hstream]
    rcases r.run.run ⟨w.newStream.2, "", w.streams, keeps⟩ with ⟨(status | f) | _, c⟩ <;> rfl
  have hwords : (runWords args).run.run ⟨w.newStream.2, "", w.streams, keeps⟩ =
      (runCommand c).run.run (consoleOf w keeps) := by
    rw [runWords, h]
    dsimp only
    rw [if_pos hsilent]
    rfl
  rw [run, hresult, hwords]

/-! ## Reports -/

theorem textOf_append (log : Log) (stream : Nat) (line : String) :
    { log with lines := log.lines ++ [(stream, line)] }.textOf stream =
      log.textOf stream ++ line := by
  simp [Log.textOf, String.join]

/-- Text about which nothing is said keeps its control sequences with the others. -/
theorem shown_none (c : Console) (s : String) :
    Run.shown c none s = if c.keepsControl then s else stripControl s := rfl

/-- How a message is shown on the standard error. -/
theorem shown_errorMessage (c : Console) (message : String) :
    Run.shown c none (colored 1 "Error:" ++ " " ++ message ++ "\n") =
      errorLine c.keepsControl message := by
  have hcolored : colored 1 "Error:" ++ " " = "\x1b[31mError:\x1b[39m " := by decide
  rw [shown_none, errorLine, stripControl_newline, stripControl_error, hcolored]

namespace Outcome

/-- A command that reports a message and ends with status 1, given its output up to then. -/
def reported (out : String) (keeps : Bool) (message : String) : Outcome :=
  ⟨1, out, errorLine keeps message, none⟩

/-- A command that ends with a failure that it does not handle. -/
def crashed (out : String) (f : Failure) : Outcome :=
  ⟨1, out, "", some f⟩

/-- A command that reports a message, if there are settings to report it under. -/
def reportedUnder (active : Except SettingsError Settings) (out : String) (keeps : Bool)
    (message : String) : Outcome :=
  match active with
  | .ok _ => reported out keeps message
  | .error e => crashed out (.settings e)

/-- A command that ends because of a failure, which it handles or not. -/
def failed (active : Except SettingsError Settings) (out : String) (keeps : Bool) (f : Failure) :
    Outcome :=
  if isHandled f then reportedUnder active out keeps (failureText f) else crashed out f

theorem status_reportedUnder (active : Except SettingsError Settings) (out : String) (keeps : Bool)
    (message : String) : (reportedUnder active out keeps message).status = 1 := by
  cases active <;> rfl

theorem status_failed (active : Except SettingsError Settings) (out : String) (keeps : Bool)
    (f : Failure) : (failed active out keeps f).status = 1 := by
  unfold failed
  split
  · exact status_reportedUnder active out keeps _
  · rfl

end Outcome

/-- A console with a silent log, and nothing on the standard error. -/
structure Console.IsQuiet (c : Console) : Prop where
  silent : c.world.log.IsSilent
  err : c.world.log.textOf c.stream = ""

section Reports

variable {c : Console} {α β : Type}

theorem run_attempt (a : Action α) (c : Console) :
    (Run.attempt a).run.run c =
      (.ok (a.run.run c.world).1, { c with world := (a.run.run c.world).2 }) := rfl

theorem run_perform (a : Action α) (c : Console) :
    (Run.perform a).run.run c =
      ((a.run.run c.world).1.mapError .failure, { c with world := (a.run.run c.world).2 }) := by
  rw [Run.perform, run_bind_ok (run_attempt a c)]
  rcases (a.run.run c.world).1 with f | r <;> rfl

/-- Work that writes to a silent log has nothing but its result. -/
theorem run_attempt_of_silent {a : Action α} (h : Consults a) (hc : c.world.log.IsSilent) :
    (Run.attempt a).run.run c = (.ok (a.run.run c.world).1, c) := by
  have hworld : (a.run.run c.world).2 = c.world := (h.world c.world).silent hc
  rw [run_attempt, hworld]

theorem run_perform_of_silent {a : Action α} (h : Consults a) (hc : c.world.log.IsSilent) :
    (Run.perform a).run.run c = ((a.run.run c.world).1.mapError .failure, c) := by
  have hworld : (a.run.run c.world).2 = c.world := (h.world c.world).silent hc
  rw [run_perform, hworld]

/-- A reported message is the end, and the settings in force are active then. -/
theorem ended_fail (hc : c.IsQuiet) (message : String) :
    let result := ended c.stream ((fail message).run.run c)
    result.1 = .reportedUnder c.world.active c.out c.keepsControl message ∧
      result.2.settings = c.world.active.toOption := by
  have hmessage := run_map_inColor hc.silent 1 "Error:" fun s => s ++ " " ++ message
  have hperform := run_perform (errorMessage message) c
  rw [errorMessage, hmessage] at hperform
  rcases hactive : c.world.active with e | s
  · rw [hactive] at hperform
    have hfail : (fail message : Run Unit).run.run c =
        (.error (.failure (.settings e)), { c with world := c.world.settled }) :=
      run_bind_error hperform _
    rw [hfail, World.settled_of_error hactive]
    exact ⟨by rw [ended, hc.err]; rfl, World.settings_of_active_error hactive⟩
  · rw [hactive] at hperform
    let log := { c.world.log with
      lines := c.world.log.lines ++ [(c.stream, errorLine c.keepsControl message)] }
    have hfail : (fail message : Run Unit).run.run c =
        (.error (.exit 1), { c with world := { c.world.settled with log } }) := by
      rw [fail, errorMessage, run_bind_ok hperform]
      simp only [log, ← shown_errorMessage]
      rfl
    rw [hfail, World.settled_of_ok hactive]
    refine ⟨?_, rfl⟩
    have herr : log.textOf c.stream = errorLine c.keepsControl message := by
      rw [textOf_append, hc.err, String.empty_append]
    rw [ended, herr]
    rfl

/-! ## Handled failures -/

theorem run_handle_ok {onFailure : Failure → Run Unit} {a : Action α} {r : α} {w : World}
    (h : a.run.run c.world = (.ok r, w)) :
    (handle onFailure a).run.run c = (.ok r, { c with world := w }) := by
  have hattempt := run_attempt a c
  rw [h] at hattempt
  rw [handle, run_bind_ok hattempt]
  rfl

theorem run_handle_congr {onFailure : Failure → Run Unit} {a a' : Action α}
    (h : a.run.run c.world = a'.run.run c.world) :
    (handle onFailure a).run.run c = (handle onFailure a').run.run c := by
  rw [handle, handle, run_bind_ok (run_attempt a c), run_bind_ok (run_attempt a' c), h]

theorem handle_pure (onFailure : Failure → Run Unit) (r : α) :
    handle onFailure (pure r : Action α) = pure r := rfl

/-- A reported message is the end, whatever would follow. -/
theorem fail_bind (message : String) (k : α → Run β) : fail message >>= k = fail message := by
  have hexit : (Run.exit 1 : Run α) >>= k = Run.exit 1 := run_ext fun _ => rfl
  simp only [fail, bind_assoc, hexit]

/-- Nothing follows a failure. -/
theorem handle_throw_bind (onFailure : Failure → Run Unit) (f : Failure) (k : α → Run β) :
    handle onFailure (throw f : Action α) >>= k = handle onFailure (throw f : Action β) := by
  have hthrow {γ : Type} : handle onFailure (throw f : Action γ) =
      if isHandled f then (do onFailure f; fail (failureText f)) else throw (.failure f) := rfl
  rw [hthrow, hthrow]
  split
  · rw [bind_assoc]
    simp only [fail_bind]
  · rfl

/-- Handling work step by step is handling it at once. -/
theorem handle_bind (onFailure : Failure → Run Unit) (x : Action α) (f : α → Action β) :
    handle onFailure (x >>= f) = handle onFailure x >>= fun a => handle onFailure (f a) := by
  refine run_ext fun c => ?_
  rw [handle, handle, bind_assoc, run_bind_ok (run_attempt _ c), run_bind_ok (run_attempt _ c),
    run_bind]
  rcases x.run.run c.world with ⟨e | a, w⟩
  · dsimp only
    split
    · rw [bind_assoc]
      simp only [fail_bind]
    · rfl
  · rw [pure_bind, handle, run_bind_ok (run_attempt _ _)]

theorem isOwnName_commandLogger : isOwnName commandLogger := by decide

/-- What is done about failures leaves no trace while the log is silent. -/
def LeavesNoTrace (onFailure : Failure → Run Unit) : Prop :=
  ∀ ⦃c : Console⦄, c.world.log.IsSilent → ∀ f, (onFailure f).run.run c = (.ok (), c)

theorem leavesNoTrace_recordFailure : LeavesNoTrace recordFailure := by
  intro c h f
  rw [recordFailure, run_perform_of_silent (Consults.record _ isOwnName_commandLogger _) h]
  rfl

/-- A failure of handled work is the end: it is reported if it is one of those that are. -/
theorem ended_handle {onFailure : Failure → Run Unit} (htrace : LeavesNoTrace onFailure)
    (hc : c.IsQuiet) {a : Action α} {f : Failure} {w : World}
    (h : a.run.run c.world = (.error f, w)) (hlog : w.log = c.world.log) (k : α → Run Unit) :
    let result := ended c.stream ((handle onFailure a >>= k).run.run c)
    result.1 = .failed w.active c.out c.keepsControl f ∧
      result.2.settings = if isHandled f then w.active.toOption else w.settings := by
  have hattempt := run_attempt a c
  rw [h] at hattempt
  have hquiet : ({ c with world := w } : Console).IsQuiet :=
    ⟨hlog ▸ hc.silent,
      (congrArg (Log.textOf · c.stream) hlog).trans hc.err⟩
  intro result
  by_cases hhandled : isHandled f
  · have hhandle : (handle onFailure a).run.run c =
        (fail (failureText f) : Run α).run.run { c with world := w } := by
      rw [handle, run_bind_ok hattempt]
      dsimp only
      rw [if_pos hhandled, run_bind_ok (htrace hquiet.silent f)]
    have hresult : result = ended c.stream
        ((fail (failureText f) >>= k : Run Unit).run.run { c with world := w }) := by
      simp only [result, run_bind, hhandle]
    rw [Outcome.failed, if_pos hhandled, if_pos hhandled, hresult, fail_bind]
    exact ended_fail hquiet (failureText f)
  · have hhandle : (handle onFailure a).run.run c =
        (.error (.failure f), { c with world := w }) := by
      rw [handle, run_bind_ok hattempt]
      dsimp only
      rw [if_neg hhandled]
      rfl
    have hresult : result = ended c.stream (.error (.failure f), { c with world := w }) := by
      simp only [result, run_bind_error hhandle]
    rw [Outcome.failed, if_neg hhandled, if_neg hhandled, hresult]
    exact ⟨by rw [ended, hquiet.err]; rfl, rfl⟩

end Reports

end CommandLine

end Sgr
