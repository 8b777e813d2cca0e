import Sgr.Proofs.Running
import Sgr.Proofs.Sigil.Grammar

/-!
# Accepted texts of sigils

A text of sigils is accepted if its sigils are a preamble and nothing else. The settings are asked
whether constant text may be made, and they are active from then on, so what was accepted once is
accepted again until other settings are installed.

## Main statements

* `Modes.preamble_of_ofPrefix` — the sigils of an accepted text are a preamble.
* `settings_of_readPrefix` — reading a text makes the settings active that it was read under.
* `readPrefix_of_settings` — reading a text under active settings.
-/

namespace Sgr

/-- The sigils of an accepted text are a preamble, and the text gives the modes that the preamble
names. -/
theorem Modes.preamble_of_ofPrefix {constFormat : Bool} {shown text : String} {sigils : List Sigil}
    {modes : Modes} (hsigils : Sigil.tokenize text = .ok sigils)
    (h : Modes.ofPrefix constFormat shown text = .ok modes) :
    ∃ preamble : Preamble, sigils.map .sigil = preamble.tokens ∧
      ¬Leading.IsDisabled constFormat preamble.tokens ∧ modes = preamble.modes := by
  simp only [ofPrefix, hsigils, bind, Except.bind] at h
  rcases hread : Leading.read constFormat (sigils.map .sigil) with e | l
  · rw [hread] at h
    cases h
  · rw [hread] at h
    obtain ⟨hc, preamble, htokens, -, houtput, hrevert⟩ := Leading.read_eq_ok.mp hread
    have hcontent : l.content = [] := by
      rcases hl : l.content with _ | ⟨v, content⟩
      · rfl
      · have hv : v ∈ sigils.map Value.sigil := by
          rw [htokens, hl]
          exact List.mem_append_right _ List.mem_cons_self
        obtain ⟨s, -, rfl⟩ := List.mem_map.mp hv
        simp [hl] at h
    rw [hcontent, List.append_nil] at htokens
    simp only [hcontent] at h
    obtain rfl := Except.ok.inj h
    exact ⟨preamble, htokens, htokens ▸ hc, by rw [Leading.modes, houtput, hrevert]; rfl⟩

/-! ## Settings -/

theorem run_activeSettings {c : Context} {s : Settings} (h : c.settings = some s) :
    activeSettings.run.run c = (.ok s, c) := by
  rw [activeSettings, run_bind_ok (run_get c), h]
  rfl

theorem settings_of_activeSettings {c c' : Context} {s : Settings}
    (h : activeSettings.run.run c = (.ok s, c')) : c'.settings = some s := by
  rcases hc : c.settings with _ | s'
  · rw [activeSettings, run_bind_ok (run_get c), hc] at h
    simp only [run_bind_ok (run_get c)] at h
    rcases henv : Settings.ofEnv c.env with e | s'
    · rw [henv] at h
      cases h
    · rw [henv] at h
      cases h
      rfl
  · rw [run_activeSettings hc] at h
    cases h
    exact hc

theorem run_mayBeConstant (c : Context) :
    (mayBeConstant none).run.run c =
      ((activeSettings.run.run c).1.map Settings.constFormat, (activeSettings.run.run c).2) := by
  simp only [mayBeConstant, run_bind, run_pure]
  rcases activeSettings.run.run c with ⟨e | s, c'⟩ <;> rfl

/-- What is put on record of an accepted text. -/
def prefixRecord (c : Context) (shown : String) (modes : Modes) : Context :=
  c.record .debug "sgrfmt.sigils"
    ("Sigil prefix " ++ shown ++ " -> " ++ modes.output.name ++ ", " ++ modes.revert.name)

/-- A text is tokenized, then the settings are read, and then its sigils are. -/
theorem run_readPrefix (shown text : String) (c : Context) :
    (readPrefix shown text none).run.run c =
      match Sigil.tokenize text, activeSettings.run.run c with
      | .error e, _ => (.error (.sigil e), c)
      | .ok _, (.error e, c') => (.error (.settings e), c')
      | .ok _, (.ok s, c') =>
        match Modes.ofPrefix s.constFormat shown text with
        | .error e => (.error (.sigil e), c')
        | .ok modes => (.ok modes, prefixRecord c' shown modes) := by
  rcases htokens : Sigil.tokenize text with e | sigils
  · simp only [readPrefix, htokens, InContext.ofExcept_error, run_bind, run_throw]
  · have henabled : ((mayBeConstant none).mapError PrefixError.settings).run.run c =
        (((activeSettings.run.run c).1.map Settings.constFormat).mapError .settings,
          (activeSettings.run.run c).2) := by
      rw [InContext.run_mapError, run_mayBeConstant]
    rcases hactive : activeSettings.run.run c with ⟨e | s, c'⟩
    · rw [hactive] at henabled
      simp only [readPrefix, htokens, InContext.ofExcept_ok, pure_bind, run_bind, henabled]
      rfl
    · rw [hactive] at henabled
      simp only [readPrefix, htokens, InContext.ofExcept_ok, pure_bind]
      rw [run_bind_ok henabled]
      rcases hmodes : Modes.ofPrefix s.constFormat shown text with e | modes
      · simp only [InContext.ofExcept_error, run_bind, run_throw]
      · simp only [InContext.ofExcept_ok, pure_bind]
        rfl

/-- The settings that an accepted text was read under are active from then on. -/
theorem settings_of_readPrefix {shown text : String} {c c' : Context} {modes : Modes}
    (h : (readPrefix shown text none).run.run c = (.ok modes, c')) :
    ∃ s, c'.settings = some s ∧ (activeSettings.run.run c).1 = .ok s ∧
      Modes.ofPrefix s.constFormat shown text = .ok modes := by
  rw [run_readPrefix] at h
  split at h
  · cases h
  · cases h
  · next s _ c₁ hactive =>
    split at h
    · cases h
    · next hmodes =>
      cases h
      have hs := settings_of_activeSettings hactive
      exact ⟨s, hs, by rw [hactive], hmodes⟩

/-- A text that is accepted under the active settings leaves them as they are. -/
theorem readPrefix_of_settings {shown text : String} {c : Context} {s : Settings} {modes : Modes}
    (hs : c.settings = some s) (h : Modes.ofPrefix s.constFormat shown text = .ok modes) :
    ∃ c', (readPrefix shown text none).run.run c = (.ok modes, c') ∧ c'.settings = some s := by
  refine ⟨prefixRecord c shown modes, ?_, hs⟩
  rcases htokens : Sigil.tokenize text with e | sigils
  · rw [Modes.ofPrefix, htokens] at h
    cases h
  · rw [run_readPrefix, htokens, run_activeSettings hs]
    simp only [h]

end Sgr
