import Mathlib.Order.Defs.Unbundled
import Sgr.Proofs.Log
import Sgr.Proofs.Sigil.Prefix

/-!
# The settings in force

A question for the settings is answered by the active ones, or by those of the environment, which
are active from then on. So there are always settings in force, unless the environment gives none,
and questions do not change which ones these are.

## Main definitions

* `Context.active` — the settings in force.
* `Context.IsOff` — the active settings allow no constant text.
* `Context.Settles` — how a context changes when it is asked for the settings.

## Main statements

* `Context.Settles.active_eq` — questions do not change what is in force.
* `run_activeSettings_fst`, `run_activeSettings_snd` — the answer to a question, and the context
  behind it.
* `run_activeSettings_of_silent` — both at once while the log is silent.
-/

namespace Sgr

namespace Context

/-- The active settings, or those that a question would make active. -/
def active (c : Context) : Except SettingsError Settings :=
  match c.settings with
  | some s => .ok s
  | none => Settings.ofEnv c.env

/-- The active settings allow no constant text. -/
def IsOff (c : Context) : Prop :=
  ∃ s, c.settings = some s ∧ s.constFormat = false

/-- A context before and behind some questions: if there are other settings behind them, there were
none before and the environment gives these. -/
structure Settles (c c' : Context) : Prop where
  env : c'.env = c.env
  settings : c'.settings = c.settings ∨
    c.settings = none ∧ ∃ s, Settings.ofEnv c.env = .ok s ∧ c'.settings = some s

theorem Settles.of_eq {c c' : Context} (henv : c'.env = c.env) (h : c'.settings = c.settings) :
    Settles c c' :=
  ⟨henv, .inl h⟩

theorem active_of_settings {c : Context} {s : Settings} (h : c.settings = some s) :
    c.active = .ok s := by
  rw [active, h]

namespace Settles

variable {c c' c'' : Context}

/-- Active settings stay. -/
theorem settings_eq (h : Settles c c') {s : Settings} (hs : c.settings = some s) :
    c'.settings = some s := by
  rcases h.settings with h | ⟨h, -⟩
  · rw [h, hs]
  · rw [h] at hs
    cases hs

theorem active_eq (h : Settles c c') : c'.active = c.active := by
  rcases h.settings with hs | ⟨hnone, s, henv, hs⟩
  · rw [active, active, hs, h.env]
  · rw [active_of_settings hs, active, hnone, henv]

theorem trans (h : Settles c c') (h' : Settles c' c'') : Settles c c'' where
  env := h'.env.trans h.env
  settings := by
    rcases h.settings with hs | ⟨hnone, s, henv, hs⟩
    · rw [← hs, ← h.env]
      exact h'.settings
    · exact .inr ⟨hnone, s, henv, h'.settings_eq hs⟩

instance : IsPreorder Context Settles where
  refl _ := .of_eq rfl rfl
  trans _ _ _ := Settles.trans

end Settles

end Context

/-! ## Questions -/

theorem run_activeSettings_fst (c : Context) : (activeSettings.run.run c).1 = c.active := by
  rcases hs : c.settings with _ | s
  · rw [activeSettings, run_bind_ok (run_get c), hs, Context.active, hs]
    simp only [run_bind_ok (run_get c)]
    rcases Settings.ofEnv c.env with e | s <;> rfl
  · rw [run_activeSettings hs, Context.active_of_settings hs]

/-- Asking makes active what is given, and nothing if nothing is. -/
theorem run_activeSettings_snd (c : Context) :
    (activeSettings.run.run c).2.settings = c.active.toOption ∧
      (activeSettings.run.run c).2.env = c.env := by
  rcases hs : c.settings with _ | s
  · rw [activeSettings, run_bind_ok (run_get c), hs, Context.active, hs]
    simp only [run_bind_ok (run_get c)]
    rcases Settings.ofEnv c.env with e | s
    · exact ⟨hs, rfl⟩
    · exact ⟨rfl, rfl⟩
  · rw [run_activeSettings hs, Context.active_of_settings hs]
    exact ⟨hs, rfl⟩

/-- While the log is silent, asking does nothing else. -/
theorem run_activeSettings_of_silent {c : Context} (h : c.log.IsSilent) :
    activeSettings.run.run c = (c.active, { c with settings := c.active.toOption }) := by
  have hlog (r : Record) (hr : r.logger = "sgrfmt.config") : c.log.write c.now r = c.log := by
    refine Log.write_of_silent h (Log.owns_of_isOwnName ?_) c.now
    rw [hr]
    decide
  rcases hs : c.settings with _ | s
  · rw [activeSettings, run_bind_ok (run_get c), hs, Context.active, hs]
    simp only [run_bind_ok (run_get c)]
    rcases Settings.ofEnv c.env with e | s
    · obtain ⟨settings, env, log, now⟩ := c
      cases hs
      rfl
    · calc (logRecord .debug "sgrfmt.config" ("Settings initialized from environment: " ++ s.text)
            >>= fun _ => pure s : InContext SettingsError Settings).run.run
              { c with settings := some s }
          = (.ok s, { c with settings := some s, log := c.log.write c.now _ }) := rfl
        _ = (.ok s, { c with settings := some s }) := by rw [hlog _ rfl]
  · have hsame : { c with settings := some s } = c := by rw [← hs]
    rw [run_activeSettings hs, Context.active_of_settings hs, Except.toOption, hsame]

end Sgr
