import Sgr.Proofs.Keeping
import Sgr.Proofs.Lazy

/-!
# Asking for the settings

Work in a context touches the environment never, and the settings only by asking for them. It is
refused constant text only if the settings that are active then say so, or if it was told from
outside that constant text is not allowed.

## Main definitions

* `Admits`, `Refuses` — results that refuse no constant text, and failures that may do so.
* `Asks` — work that does no more than ask.

## Main statements

* `activeSettings_asks`, `readPrefix_asks` — asking, and reading a text of sigils.
* `constFormat_of_mayBeConstant` — whether constant text is allowed is what the settings say.
-/

namespace Sgr

/-! ## Refusals -/

variable {ε δ α β : Type} {allowed : Bool} {cls : ε → ErrorClass}

/-- A result refuses constant text only if it is not allowed. -/
def Admits (allowed : Bool) (cls : ε → ErrorClass) (r : Except ε α) : Prop :=
  ∀ e, r = .error e → cls e = .unsupportedMode → allowed = false

/-- A failure refuses constant text only if it is not allowed, or if the settings are against it. -/
def Refuses (allowed : Bool) (cls : ε → ErrorClass) (e : ε) (c : Context) : Prop :=
  cls e = .unsupportedMode → allowed = false ∨ c.IsOff

@[grind ←] theorem Refuses.of_ne {e : ε} (h : cls e ≠ .unsupportedMode) (c : Context) :
    Refuses allowed cls e c :=
  fun he => absurd he h

namespace Admits

@[grind ←] theorem ok (a : α) : Admits allowed cls (.ok a) :=
  fun _ he => by cases he

@[grind ←] theorem pure (a : α) : Admits allowed cls (pure a : Except ε α) :=
  ok a

@[grind ←] theorem error {e : ε} (h : cls e ≠ .unsupportedMode) :
    Admits allowed cls (.error e : Except ε α) :=
  fun e' he hclass => by cases he; exact absurd hclass h

@[grind ←] theorem bind {r : Except ε α} {f : α → Except ε β} (h : Admits allowed cls r)
    (hf : ∀ a, Admits allowed cls (f a)) : Admits allowed cls (r >>= f) := by
  cases r with
  | error e => exact fun e' he => by cases he; exact h e rfl
  | ok a => exact hf a

@[grind ←] theorem map {r : Except ε α} {f : α → β} (h : Admits allowed cls r) :
    Admits allowed cls (r.map f) := by
  cases r with
  | error e => exact fun e' he => by cases he; exact h e rfl
  | ok a => exact ok (f a)

/-- Another form of the failures. -/
theorem mapError {cls' : δ → ErrorClass} {f : ε → δ} {r : Except ε α} (h : Admits allowed cls r)
    (hf : ∀ e, cls' (f e) = cls e) : Admits allowed cls' (r.mapError f) := by
  cases r with
  | error e => exact fun e' he => by cases he; rw [hf]; exact h e rfl
  | ok a => exact ok a

end Admits

/-! ## Asking -/

/-- Work in a context that does no more than ask for the settings, and does not see them unless it
asks. -/
structure Asks (allowed : Bool) (cls : ε → ErrorClass) (x : InContext ε α) : Prop where
  keeps : Keeps Context.Settles (Refuses allowed cls) x
  lazy : Lazy x

@[grind ←] theorem Asks.pure (a : α) : Asks allowed cls (pure a : InContext ε α) :=
  ⟨.pure a, .pure a⟩

@[grind ←] theorem Asks.throw {e : ε} (h : ∀ c, Refuses allowed cls e c) :
    Asks allowed cls (throw e : InContext ε α) :=
  ⟨.throw h, .throw e⟩

@[grind ←] theorem Asks.bind {x : InContext ε α} {f : α → InContext ε β} (hx : Asks allowed cls x)
    (hf : ∀ a, Asks allowed cls (f a)) : Asks allowed cls (x >>= f) :=
  ⟨hx.keeps.bind fun a => (hf a).keeps, hx.lazy.bind fun a => (hf a).lazy⟩

theorem Asks.ofExcept {cls' : δ → ErrorClass} {f : ε → δ} {r : Except ε α} (h : Admits allowed cls r)
    (hf : ∀ e, cls' (f e) = cls e) : Asks allowed cls' (InContext.ofExcept f r) := by
  cases r with
  | error e => exact .throw fun c he => .inl (h e rfl (hf e ▸ he))
  | ok a => exact .pure a

/-- What follows a result without effects has to do no more than ask only if it is a success. -/
theorem Asks.ofExcept_bind {cls' : δ → ErrorClass} {f : ε → δ} {r : Except ε α}
    {k : α → InContext δ β} (h : Admits allowed cls r) (hf : ∀ e, cls' (f e) = cls e)
    (hk : ∀ a, r = .ok a → Asks allowed cls' (k a)) :
    Asks allowed cls' (InContext.ofExcept f r >>= k) := by
  cases r with
  | error e =>
    have hthrow : (MonadExcept.throw (f e) : InContext δ α) >>= k = MonadExcept.throw (f e) :=
      run_ext fun _ => rfl
    rw [InContext.ofExcept_error, hthrow]
    exact .throw fun c he => .inl (h e rfl (hf e ▸ he))
  | ok a => exact hk a rfl

/-- Another form of the failures, which makes none of them a refusal. -/
theorem Asks.mapError {cls' : δ → ErrorClass} {f : ε → δ} {x : InContext ε α} (h : Asks allowed cls x)
    (hf : ∀ e, cls' (f e) = .unsupportedMode → cls e = .unsupportedMode) :
    Asks allowed cls' (x.mapError f) := by
  refine ⟨fun c => ?_, h.lazy.mapError f⟩
  obtain ⟨hstate, hfailure⟩ := h.keeps c
  refine ⟨hstate, fun e he hclass => ?_⟩
  rw [InContext.run_mapError] at he ⊢
  rcases hrun : x.run.run c with ⟨e' | a, c'⟩
  · rw [hrun] at he hfailure
    cases he
    exact hfailure e' rfl (hf e' hclass)
  · rw [hrun] at he
    cases he

/-- Behind the question whether constant text is allowed, what it is refused for is the settings. -/
theorem Asks.of_settings {allowed' : Bool} {x : InContext ε α} (h : Asks allowed cls x) {c : Context}
    (hc : ∃ s, c.settings = some s ∧ s.constFormat = allowed) :
    KeepsAt Context.Settles (Refuses allowed' cls) c x := by
  obtain ⟨s, hs, rfl⟩ := hc
  obtain ⟨hstate, hfailure⟩ := h.keeps c
  refine ⟨hstate, fun e he hclass => .inr ?_⟩
  rcases hfailure e he hclass with hdenied | hoff
  · exact ⟨s, hstate.settings_eq hs, hdenied⟩
  · exact hoff

theorem SettingsError.errorClass_ne (e : SettingsError) : e.errorClass ≠ .unsupportedMode := by
  cases e <;> simp [errorClass]

@[grind ←] theorem logRecord_asks (level : LogLevel) (logger message : String) :
    Asks allowed cls (logRecord level logger message) :=
  ⟨.modify fun _ => .of_eq rfl rfl, logRecord_lazy level logger message⟩

theorem activeSettings_asks : Asks allowed SettingsError.errorClass activeSettings :=
  ⟨fun c => ⟨(activeSettings_lazy c).settles, fun e _ => .of_ne e.errorClass_ne _⟩,
    activeSettings_lazy⟩

@[grind ←] theorem mayBeConstant_asks (given : Option Bool) :
    Asks allowed SettingsError.errorClass (mayBeConstant given) := by
  cases given with
  | none => exact activeSettings_asks.bind fun s => .pure _
  | some b => exact .pure b

/-- Behind the question whether constant text is allowed, the settings are active that say so. -/
theorem constFormat_of_mayBeConstant {c c' : Context} {b : Bool}
    (h : (mayBeConstant none).run.run c = (.ok b, c')) :
    ∃ s, c'.settings = some s ∧ s.constFormat = b := by
  rw [run_mayBeConstant] at h
  rcases hrun : activeSettings.run.run c with ⟨e | s, c''⟩
  · rw [hrun] at h
    cases h
  · rw [hrun] at h
    cases h
    exact ⟨s, settings_of_activeSettings hrun, rfl⟩

/-! ## Sigils -/

theorem readOutput_admits (tokens : List Value) :
    Admits allowed SigilError.errorClass (Leading.readOutput allowed tokens) := by
  unfold Leading.readOutput
  split
  · split
    · split
      · exact fun _ _ _ => by simp_all
      · exact .ok _
    · exact .ok _
  · exact .ok _

theorem checkContent_admits (afterRevert : Bool) (content : List Value) :
    Admits allowed SigilError.errorClass (Leading.checkContent afterRevert content) := by
  unfold Leading.checkContent
  grind [SigilError.errorClass]

/-- Sigils are refused only where constant text is not allowed, or for their order. -/
theorem read_admits (tokens : List Value) :
    Admits allowed SigilError.errorClass (Leading.read allowed tokens) :=
  (readOutput_admits tokens).bind fun _ => (checkContent_admits _ _).bind fun _ => .pure _

theorem tokenize_admits (text : String) :
    Admits allowed SigilError.errorClass (Sigil.tokenize text) := by
  have hchars (cs : List Char) :
      Admits allowed SigilError.errorClass (Sigil.ofChars text cs) := by
    induction cs <;> grind [Sigil.ofChars, SigilError.errorClass]
  exact hchars text.toList

theorem ofPrefix_admits (shown text : String) :
    Admits allowed SigilError.errorClass (Modes.ofPrefix allowed shown text) := by
  refine (tokenize_admits text).bind fun sigils => (read_admits _).bind fun leading => ?_
  grind [SigilError.errorClass]

/-- A text of sigils asks for the settings, and is refused for constant text only by them. -/
theorem readPrefix_asks (shown text : String) :
    Asks allowed PrefixError.errorClass (readPrefix shown text none) := by
  have tokens : Asks allowed PrefixError.errorClass
      (InContext.ofExcept .sigil (Sigil.tokenize text)) :=
    .ofExcept (tokenize_admits text) fun _ => rfl
  have settings : Asks allowed PrefixError.errorClass
      ((mayBeConstant none).mapError PrefixError.settings) :=
    (mayBeConstant_asks none).mapError fun _ => id
  have modes (enabled : Bool) : Asks enabled PrefixError.errorClass
      (InContext.ofExcept .sigil (Modes.ofPrefix enabled shown text)) :=
    .ofExcept (ofPrefix_admits shown text) fun _ => rfl
  have logged {enabled : Bool} (modes : Modes) : Asks enabled PrefixError.errorClass (do
      logRecord .debug "sgrfmt.sigils"
        ("Sigil prefix " ++ shown ++ " -> " ++ modes.output.name ++ ", " ++ modes.revert.name)
      return modes) := (logRecord_asks _ _ _).bind fun _ => .pure modes
  constructor
  · refine tokens.keeps.bind fun _ c => (settings.keeps c).bind fun enabled c' hrun => ?_
    exact ((modes enabled).bind logged).of_settings
      (constFormat_of_mayBeConstant (InContext.run_of_mapError hrun))
  · exact tokens.lazy.bind fun _ => settings.lazy.bind fun enabled =>
      (modes enabled).lazy.bind fun modes => (@logged enabled modes).lazy

end Sgr
