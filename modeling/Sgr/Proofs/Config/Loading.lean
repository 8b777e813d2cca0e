import Mathlib.Order.Defs.Unbundled
import Sgr.Config.Load
import Sgr.Proofs.Config.Schema
import Sgr.Proofs.Log

/-!
# Loading settings

What loads a configuration looks at the environment and the files. It changes neither, nor anything
else but the log, and not even that while the log is silent. So the same settings are found, or the
same failure, in every world with that environment and those files.

## Main definitions

* `World.Logs` — the worlds before and behind work that writes to the log alone.
* `Consults` — work of this sort.
* `settingsOfPlace`, `chosenSettings` — the settings of the file that a path leads to, of a default
  file, or of the environment.

## Main statements

* `findConfig_consults`, `loadResolved_consults`, `loadSettings_consults` — loading is of this sort.
* `run_findConfig` — what a path leads to is found, and otherwise a default file.
* `result_loadSettings` — the settings of a file are those of its configuration.
* `color_of_chosenSettings` — a loaded colour setting is one of the choices.
-/

namespace Sgr

/-- The worlds before and behind work that writes to the log and does nothing else. A silent log
stays as it is. -/
structure World.Logs (w w' : World) : Prop where
  log : ∃ log, w' = { w with log }
  silent : w.log.IsSilent → w' = w

namespace World.Logs

variable {w w' w'' : World}

theorem env (h : w.Logs w') : w'.env = w.env := by
  obtain ⟨log, rfl⟩ := h.log
  rfl

theorem files (h : w.Logs w') : w'.files = w.files := by
  obtain ⟨log, rfl⟩ := h.log
  rfl

theorem settings (h : w.Logs w') : w'.settings = w.settings := by
  obtain ⟨log, rfl⟩ := h.log
  rfl

theorem refl (w : World) : w.Logs w :=
  ⟨⟨w.log, rfl⟩, fun _ => rfl⟩

theorem trans (h : w.Logs w') (h' : w'.Logs w'') : w.Logs w'' := by
  constructor
  · obtain ⟨log, rfl⟩ := h.log
    obtain ⟨log', rfl⟩ := h'.log
    exact ⟨log', rfl⟩
  · intro hsilent
    obtain rfl := h.silent hsilent
    exact h'.silent hsilent

instance : IsPreorder World World.Logs where
  refl := refl
  trans _ _ _ := trans

end World.Logs

/-- Work whose result depends on the environment and the files, and that writes to the log alone. -/
structure Consults {α : Type} (x : Action α) : Prop where
  world : ∀ w : World, w.Logs (x.run.run w).2
  result : ∀ w w' : World, w.env = w'.env → w.files = w'.files →
    (x.run.run w).1 = (x.run.run w').1

namespace Consults

variable {α β γ ε : Type}

theorem pure (a : α) : Consults (pure a : Action α) :=
  ⟨fun w => .refl w, fun _ _ _ _ => rfl⟩

theorem throw (f : Failure) : Consults (throw f : Action α) :=
  ⟨fun w => .refl w, fun _ _ _ _ => rfl⟩

theorem lift (f : ε → Failure) (r : Except ε α) : Consults (Action.lift f r) := by
  cases r with
  | error e => exact .throw (f e)
  | ok a => exact .pure a

theorem record (level : LogLevel) {logger : String} (h : isOwnName logger) (message : String) :
    Consults (Action.record level logger message) := by
  refine ⟨fun w => ⟨⟨_, rfl⟩, fun hsilent => ?_⟩, fun _ _ _ _ => rfl⟩
  have hlog : w.log.write w.now ⟨level.code, logger, message⟩ = w.log :=
    Log.write_of_silent hsilent (Log.owns_of_isOwnName h) w.now
  calc { w with toContext := w.toContext.record level logger message }
      = { w with log := w.log.write w.now ⟨level.code, logger, message⟩ } := rfl
    _ = w := by rw [hlog]

/-- The result of a sequence is that of its parts, all in one world. -/
theorem result_bind {x : Action α} {f : α → Action β} (hx : Consults x) (hf : ∀ a, Consults (f a))
    (w : World) :
    ((x >>= f).run.run w).1 = (x.run.run w).1.bind fun a => ((f a).run.run w).1 := by
  have hworld := hx.world w
  rw [run_bind]
  rcases hrun : x.run.run w with ⟨e | a, w₁⟩
  · rfl
  · rw [hrun] at hworld
    exact (hf a).result w₁ w hworld.env hworld.files

theorem bind {x : Action α} {f : α → Action β} (hx : Consults x) (hf : ∀ a, Consults (f a)) :
    Consults (x >>= f) := by
  constructor
  · intro w
    have hworld := hx.world w
    rw [run_bind]
    rcases hrun : x.run.run w with ⟨e | a, w₁⟩
    · rwa [hrun] at hworld
    · rw [hrun] at hworld
      exact hworld.trans ((hf a).world w₁)
  · intro w w' henv hfiles
    rw [result_bind hx hf, result_bind hx hf, hx.result w w' henv hfiles]
    rcases (x.run.run w').1 with e | a
    · rfl
    · exact (hf a).result w w' henv hfiles

/-- Work may look at the environment and the files. -/
theorem get_bind {f : World → Action α} (h : ∀ w, Consults (f w))
    (hf : ∀ w w' : World, w.env = w'.env → w.files = w'.files → f w = f w') :
    Consults (get >>= f) := by
  have hrun (w : World) : (get >>= f).run.run w = (f w).run.run w := run_bind_ok (run_get w) f
  constructor
  · intro w
    rw [hrun]
    exact (h w).world w
  · intro w w' henv hfiles
    rw [hrun, hrun, hf w w' henv hfiles]
    exact (h w').result w w' henv hfiles

theorem forIn (as : List γ) (b : β) {body : γ → β → Action (ForInStep β)}
    (h : ∀ a b, Consults (body a b)) : Consults (forIn as b body) := by
  induction as generalizing b with
  | nil => exact .pure b
  | cons a as ih =>
    rw [List.forIn_cons]
    refine (h a b).bind fun step => ?_
    cases step with
    | done b' => exact .pure b'
    | yield b' => exact ih b'

/-- While the log is silent, there is nothing but the result. -/
theorem run_of_silent {x : Action α} (h : Consults x) {w : World} (hw : w.log.IsSilent) :
    x.run.run w = ((x.run.run w).1, w) :=
  Prod.ext rfl ((h.world w).silent hw)

/-- So what follows goes on in the same world. -/
theorem run_bind_of_silent {x : Action α} (h : Consults x) {w : World} (hw : w.log.IsSilent)
    (f : α → Action β) :
    (x >>= f).run.run w =
      match (x.run.run w).1 with
      | .error e => (.error e, w)
      | .ok a => (f a).run.run w := by
  rw [run_bind, h.run_of_silent hw]
  rcases (x.run.run w).1 with e | a <;> rfl

end Consults

/-! ## Finding a file -/

theorem isOwnName_configLogger : isOwnName configLogger := by decide

theorem existsAt_consults (p : Place) : Consults (existsAt p) :=
  .get_bind (fun _ => (Consults.lift _ _).bind fun _ => .pure _) fun w w' _ hfiles => by
    simp only [hfiles]

theorem findDefault_consults (names : List String) : Consults (findDefault names) := by
  induction names with
  | nil => exact (Consults.record _ isOwnName_configLogger _).bind fun _ => .pure none
  | cons name names ih =>
    refine .get_bind (fun w => ?_) fun w w' _ hfiles => by simp only [hfiles]
    refine (existsAt_consults _).bind fun found => ?_
    cases found with
    | true => exact (Consults.record _ isOwnName_configLogger _).bind fun _ => .pure _
    | false => exact ih

theorem findConfig_consults (path : Option String) : Consults (findConfig path) := by
  unfold findConfig
  split
  · exact findDefault_consults configNames
  · exact findDefault_consults configNames
  · refine .get_bind (fun w => ?_) fun w w' _ hfiles => by simp only [hfiles]
    refine (existsAt_consults _).bind fun found => ?_
    cases found with
    | true => exact (Consults.record _ isOwnName_configLogger _).bind fun _ => .pure _
    | false => exact findDefault_consults configNames

theorem run_existsAt (p : Place) (w : World) :
    (existsAt p).run.run w =
      (((w.files.find? p).map Option.isSome).mapError (.config ∘ .file), w) := by
  rw [existsAt, run_bind_ok (run_get w), run_bind]
  rcases w.files.find? p with e | found <;> rfl

/-- What a path leads to is found. If it leads nowhere, a default file is looked for, as without a
path. -/
theorem run_findConfig {path : String} (hpath : path ≠ "") (w : World) :
    (findConfig (some path)).run.run w =
      match w.files.find? (w.files.place path) with
      | .error e => (.error (.config (.file e)), w)
      | .ok (some _) => (do
          Action.record .debug configLogger ("Using specified config file: " ++ path)
          return some (w.files.place path) : Action (Option Place)).run.run w
      | .ok none => (findConfig none).run.run w := by
  have hexists := run_existsAt (w.files.place path) w
  unfold findConfig
  split
  · next h => cases h
  · next h => exact absurd (Option.some.inj h) hpath
  · next path' _ h =>
    obtain rfl := Option.some.inj h
    rw [run_bind_ok (run_get w), run_bind, hexists]
    rcases w.files.find? (w.files.place path) with e | _ | node <;> rfl

theorem findConfig_explicit {path : String} (hpath : path ≠ "") (w : World) :
    ((findConfig (some path)).run.run w).1 =
      match w.files.find? (w.files.place path) with
      | .error e => .error (.config (.file e))
      | .ok (some _) => .ok (some (w.files.place path))
      | .ok none => ((findConfig none).run.run w).1 := by
  rw [run_findConfig hpath]
  rcases w.files.find? (w.files.place path) with e | _ | node <;> rfl

/-! ## Loading a file -/

theorem loadConfig_consults (p : Place) : Consults (loadConfig p) := by
  refine .get_bind (fun w => ?_) fun w w' _ hfiles => by simp only [hfiles]
  split
  · split
    · exact (Consults.record _ isOwnName_configLogger _).bind fun _ => .throw _
    · exact .throw _
  · exact .lift _ _

theorem resolvePlaceholders_consults (v : Value) : Consults (resolvePlaceholders v) := by
  refine .get_bind (fun w => ?_) fun w w' henv _ => by simp only [henv]
  exact (Consults.forIn _ _ fun _ _ => (Consults.record _ isOwnName_configLogger _).bind fun _ => .pure _).bind
    fun _ => .pure _

theorem loadResolved_consults (p : Place) : Consults (loadResolved p) :=
  (loadConfig_consults p).bind resolvePlaceholders_consults

theorem violations_of_worst? {vs : List Violation} (h : Violation.worst? vs = none) : vs = [] := by
  cases vs with
  | nil => rfl
  | cons v vs => cases h

/-- The settings of a configuration that meets the schema are a result. -/
theorem settingsOf_of_meets {config : Value} (h : Schema.configuration.violations config = []) :
    ∃ r, settingsOf config = Action.lift id r ∧ Settings.IsResultOf config r := by
  obtain ⟨r, hr, hresult⟩ := Settings.exists_ofConfig h
  have hlift : Action.inContext id (InContext.ofExcept id r) = Action.lift id r := by
    refine run_ext fun w => ?_
    rw [Action.run_inContext]
    cases r <;> rfl
  refine ⟨r, ?_, hresult⟩
  rw [settingsOf, h, ← hlift, ← hr]
  rfl

/-- The settings of a configuration are refused by the schema, or they are a result. -/
theorem settingsOf_eq (config : Value) :
    (∃ v : Violation, settingsOf config = (do
      Action.record .error configLogger ("Configuration validation error: " ++ v.message)
      throw (.config (.invalid v.message)))) ∨
    ∃ r, settingsOf config = Action.lift id r ∧ Settings.IsResultOf config r := by
  rcases hworst : Violation.worst? (Schema.configuration.violations config) with _ | v
  · exact .inr (settingsOf_of_meets (violations_of_worst? hworst))
  · refine .inl ⟨v, ?_⟩
    rw [settingsOf, hworst]

theorem settingsOf_consults (config : Value) : Consults (settingsOf config) := by
  obtain ⟨v, h⟩ | ⟨r, h, -⟩ := settingsOf_eq config
  · rw [h]
    exact (Consults.record _ isOwnName_configLogger _).bind fun _ => .throw _
  · rw [h]
    exact .lift id r

theorem loadSettings_consults (p : Place) : Consults (loadSettings p) := by
  refine (Consults.record _ isOwnName_configLogger _).bind fun _ => (loadResolved_consults p).bind fun config => ?_
  refine (settingsOf_consults config).bind fun settings => ?_
  exact (Consults.record _ isOwnName_configLogger _).bind fun _ => .pure settings

/-- The settings of a file are those of its configuration. -/
theorem result_loadSettings (p : Place) (w : World) :
    ((loadSettings p).run.run w).1 =
      ((loadResolved p).run.run w).1.bind fun config => ((settingsOf config).run.run w).1 := by
  have hsettings (config : Value) : ((do
      let settings ← settingsOf config
      Action.record .debug configLogger ("Loaded settings: " ++ settings.text)
      return settings : Action Settings).run.run w).1 = ((settingsOf config).run.run w).1 := by
    rw [(settingsOf_consults config).result_bind fun _ =>
      (Consults.record _ isOwnName_configLogger _).bind fun _ => .pure _]
    cases ((settingsOf config).run.run w).1 <;> rfl
  have hrest (config : Value) : Consults (do
      let settings ← settingsOf config
      Action.record .debug configLogger ("Loaded settings: " ++ settings.text)
      return settings) :=
    (settingsOf_consults config).bind fun _ => (Consults.record _ isOwnName_configLogger _).bind fun _ => .pure _
  rw [loadSettings,
    (Consults.record _ isOwnName_configLogger _).result_bind fun _ => (loadResolved_consults p).bind hrest]
  simp only [← hsettings]
  exact (loadResolved_consults p).result_bind hrest w

theorem run_settingsFromEnv (w : World) :
    settingsFromEnv.run.run w = ((Settings.ofEnv w.env).mapError .settings, w) := by
  rw [settingsFromEnv, run_bind_ok (run_get w)]
  cases Settings.ofEnv w.env <;> rfl

theorem settingsFromEnv_consults : Consults settingsFromEnv :=
  .get_bind (fun w => .lift .settings (Settings.ofEnv w.env)) fun w w' henv _ => by rw [henv]

/-! ## The settings of a command -/

/-- The settings of the file that was found. Without one they are those of the environment, unless
there is a path, which leads nowhere then. -/
def settingsOfPlace (path : Option String) : Option Place → Action Settings
  | some p => loadSettings p
  | none =>
    match path with
    | some path => throw (.config (.file (.notFound path)))
    | none => settingsFromEnv

/-- The settings of the file that a path leads to, or of a default file. -/
def chosenSettings (path : Option String) : Action Settings := do
  settingsOfPlace path (← findConfig path)

theorem settingsOfPlace_consults (path : Option String) (place : Option Place) :
    Consults (settingsOfPlace path place) := by
  cases place with
  | some p => exact loadSettings_consults p
  | none =>
    cases path with
    | some path => exact .throw _
    | none => exact settingsFromEnv_consults

theorem chosenSettings_consults (path : Option String) : Consults (chosenSettings path) :=
  (findConfig_consults path).bind (settingsOfPlace_consults path)

theorem result_chosenSettings (path : Option String) (w : World) :
    ((chosenSettings path).run.run w).1 =
      ((findConfig path).run.run w).1.bind fun place =>
        ((settingsOfPlace path place).run.run w).1 :=
  (findConfig_consults path).result_bind (settingsOfPlace_consults path) w

/-- Without a path and a default file the settings are those of the environment. -/
theorem chosenSettings_of_no_file {w : World}
    (h : (findConfig none).run.run w = (.ok none, w)) :
    ((chosenSettings none).run.run w).1 = (Settings.ofEnv w.env).mapError .settings := by
  have hchosen : (chosenSettings none).run.run w = settingsFromEnv.run.run w := run_bind_ok h _
  rw [hchosen, run_settingsFromEnv]

theorem color_of_readColor {shown s color : String} (h : readColor shown s = .ok color) :
    color ∈ colorChoices := by
  by_cases hmem : settingWord s ∈ colorChoices
  · rw [readColor, if_pos hmem, Except.ok.injEq] at h
    rwa [← h]
  · rw [readColor, if_neg hmem] at h
    cases h

/-- The colour setting of an environment is one of the choices. -/
theorem color_of_ofEnv {env : Env} {s : Settings} (h : Settings.ofEnv env = .ok s) :
    s.color ∈ colorChoices := by
  simp only [Settings.ofEnv, bind, Except.bind] at h
  split at h
  · cases h
  · split at h
    · cases h
    · next hcolor =>
      split at h
      · cases h
      · cases h
        exact color_of_readColor hcolor

theorem color_of_loadSettings {p : Place} {w : World} {s : Settings}
    (h : ((loadSettings p).run.run w).1 = .ok s) : s.color ∈ colorChoices := by
  rw [result_loadSettings] at h
  rcases hload : ((loadResolved p).run.run w).1 with f | config <;> rw [hload] at h
  · cases h
  · obtain ⟨v, hv⟩ | ⟨r, hr, hresult⟩ := settingsOf_eq config
    · rw [Except.bind, hv] at h
      cases h
    · rw [Except.bind, hr] at h
      cases r with
      | error f => cases h
      | ok s' =>
        cases h
        exact hresult.color

/-- A loaded colour setting is one of the choices. -/
theorem color_of_chosenSettings {path : Option String} {w : World} {s : Settings}
    (h : ((chosenSettings path).run.run w).1 = .ok s) : s.color ∈ colorChoices := by
  rw [result_chosenSettings] at h
  rcases hplace : ((findConfig path).run.run w).1 with f | _ | p <;> rw [hplace] at h
  · cases h
  · cases path with
    | some path => cases h
    | none =>
      have hresult : ((settingsOfPlace none none).run.run w).1 = .ok s := h
      rw [settingsOfPlace, run_settingsFromEnv] at hresult
      rcases henv : Settings.ofEnv w.env with e | s' <;> rw [henv] at hresult
      · cases hresult
      · cases hresult
        exact color_of_ofEnv henv
  · exact color_of_loadSettings h

end Sgr
