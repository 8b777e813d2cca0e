import Sgr.Proofs.Context

/-!
# Reading the settings late

The settings are read from the environment when they are first asked for. Whether a piece of work
gets as far as to ask does not depend on what it would be told: up to that point it does not see the
settings or the environment. So it can be found out by a trial, in which there are no settings and
an environment that gives some: if there are settings behind the trial, the work asks.

## Main definitions

* `Contextual` — states with a context in them.
* `Reads` — work that asks for the settings, as a trial shows.
* `Lazy` — work that does not see the settings unless it asks.
* `Quiet` — lazy work that never asks.
* `AsksIf` — lazy work that asks under a condition.

## Main statements

* `Lazy.settings` — the settings behind lazy work.
* `Lazy.bind`, `Lazy.reads_bind` — a sequence asks if its first part does or the rest does.
* `AsksIf.bind` — so its condition is put together from those of its parts.
* `activeSettings_asksIf` — asking is lazy.
-/

namespace Sgr

/-- States that have a context in them. -/
class Contextual (σ : Type) where
  context : σ → Context
  withContext : σ → Context → σ
  context_withContext : ∀ s c, context (withContext s c) = c
  withContext_withContext : ∀ s c c', withContext (withContext s c) c' = withContext s c'
  withContext_context : ∀ s, withContext s (context s) = s

instance : Contextual Context where
  context c := c
  withContext _ c := c
  context_withContext _ _ := rfl
  withContext_withContext _ _ _ := rfl
  withContext_context _ := rfl

instance : Contextual World where
  context w := w.toContext
  withContext w c := { w with toContext := c }
  context_withContext _ _ := rfl
  withContext_withContext _ _ _ := rfl
  withContext_context _ := rfl

export Contextual (context withContext)

@[simp] theorem context_self (c : Context) : context c = c := rfl

@[simp] theorem context_world (w : World) : context w = w.toContext := rfl

attribute [simp] Contextual.context_withContext Contextual.withContext_withContext
  Contextual.withContext_context

variable {σ ε δ α β γ : Type} [Contextual σ]

/-! ## A trial -/

/-- A state for a trial: no settings, and an environment that gives some. -/
def blank (s : σ) : σ :=
  withContext s { context s with settings := none, env := [] }

/-- A state with the settings and the environment of another one. -/
def restore (s s' : σ) : σ :=
  withContext s' { context s' with settings := (context s).settings, env := (context s).env }

/-- Work asks for the settings if there are some behind a trial. -/
def Reads (x : ExceptT ε (StateM σ) α) (s : σ) : Bool :=
  (context (x.run.run (blank s)).2).settings.isSome

@[simp] theorem blank_blank (s : σ) : blank (blank s) = blank s := by
  simp [blank]

@[simp] theorem restore_blank (s : σ) : restore s (blank s) = s := by
  simp only [blank, restore, Contextual.withContext_withContext, Contextual.context_withContext]
  exact Contextual.withContext_context s

@[simp] theorem blank_restore (s s' : σ) : blank (restore s s') = blank s' := by
  simp [blank, restore]

@[simp] theorem blank_eq_restore (s s' : σ) : restore (blank s) s' = blank s' := by
  simp [blank, restore]

@[simp] theorem settings_restore (s s' : σ) :
    (context (restore s s')).settings = (context s).settings := by
  simp [restore]

@[simp] theorem env_restore (s s' : σ) : (context (restore s s')).env = (context s).env := by
  simp [restore]

@[simp] theorem restore_restore (s s' s'' : σ) :
    restore (restore s s') s'' = restore s s'' := by
  simp [restore]

@[simp] theorem reads_blank (x : ExceptT ε (StateM σ) α) (s : σ) :
    Reads x (blank s) = Reads x s := by
  simp [Reads]

/-- In a trial the settings that a question gives are there. -/
theorem isSome_active_blank (s : σ) : (context (blank s)).active.toOption.isSome := by
  have henv : Settings.ofEnv [] = .ok {} := rfl
  simp [blank, Context.active, henv, Except.toOption]

/-! ## Lazy work -/

/-- Work that does not see the settings unless it asks for them, from a state: without a question it
does what it does in a trial, and a question makes active what is in force. -/
structure LazyAt (s : σ) (x : ExceptT ε (StateM σ) α) : Prop where
  quiet : Reads x s = false →
    x.run.run s = ((x.run.run (blank s)).1, restore s (x.run.run (blank s)).2)
  asked : Reads x s = true →
    (context (x.run.run s).2).env = (context s).env ∧
      (context (x.run.run s).2).settings = (context s).active.toOption

/-- Work that does not see the settings unless it asks for them. -/
def Lazy (x : ExceptT ε (StateM σ) α) : Prop :=
  ∀ s, LazyAt s x

theorem LazyAt.env {x : ExceptT ε (StateM σ) α} {s : σ} (h : LazyAt s x) :
    (context (x.run.run s).2).env = (context s).env := by
  cases hreads : Reads x s with
  | false => rw [h.quiet hreads, env_restore]
  | true => exact (h.asked hreads).1

/-- Behind lazy work that asks, what was in force is active; otherwise nothing changes. -/
theorem LazyAt.settings {x : ExceptT ε (StateM σ) α} {s : σ} (h : LazyAt s x) :
    (context (x.run.run s).2).settings =
      if Reads x s then (context s).active.toOption else (context s).settings := by
  cases hreads : Reads x s with
  | false => rw [h.quiet hreads, settings_restore]; rfl
  | true => exact (h.asked hreads).2

/-- Lazy work changes the settings only as a question does. -/
theorem LazyAt.settles {x : ExceptT ε (StateM σ) α} {s : σ} (h : LazyAt s x) :
    (context s).Settles (context (x.run.run s).2) := by
  refine ⟨h.env, ?_⟩
  have hsettings := h.settings
  split at hsettings
  · rcases hs : (context s).settings with _ | st
    · rw [Context.active, hs] at hsettings
      rcases henv : Settings.ofEnv (context s).env with e | st
      · rw [henv] at hsettings
        exact .inl hsettings
      · rw [henv] at hsettings
        exact .inr ⟨rfl, st, rfl, hsettings⟩
    · rw [Context.active_of_settings hs] at hsettings
      exact .inl hsettings
  · exact .inl hsettings

/-- Where there are settings, they stay. -/
theorem LazyAt.settings_of_isSome {x : ExceptT ε (StateM σ) α} {s : σ} (h : LazyAt s x)
    (hs : (context s).settings.isSome) : (context (x.run.run s).2).settings.isSome := by
  obtain ⟨st, hst⟩ := Option.isSome_iff_exists.mp hs
  rw [h.settles.settings_eq hst]
  rfl

/-- A trial without a question ends in a state for a trial. -/
theorem LazyAt.blank_of_quiet {x : ExceptT ε (StateM σ) α} {s : σ} (h : LazyAt (blank s) x)
    (hreads : Reads x s = false) : blank (x.run.run (blank s)).2 = (x.run.run (blank s)).2 := by
  have hrun := congrArg Prod.snd (h.quiet (by rw [reads_blank, hreads]))
  rw [blank_blank, blank_eq_restore] at hrun
  exact hrun.symm

/-- A sequence asks if its first part does, or if the rest does. -/
theorem Lazy.reads_bind {x : ExceptT ε (StateM σ) α} {f : α → ExceptT ε (StateM σ) β}
    (hx : Lazy x) (hf : ∀ a, Lazy (f a)) (s : σ) :
    Reads (x >>= f) s =
      (Reads x s || match x.run.run s with
        | (.ok a, s') => Reads (f a) s'
        | (.error _, _) => false) := by
  cases hreads : Reads x s with
  | false =>
    rw [Bool.false_or, (hx s).quiet hreads]
    have hblank := (hx (blank s)).blank_of_quiet hreads
    rcases hrun : x.run.run (blank s) with ⟨e | a, b⟩
    · rw [Reads, hrun] at hreads
      rw [Reads, run_bind, hrun]
      exact hreads
    · rw [hrun] at hblank
      simp only [Reads, run_bind, hrun, blank_restore, hblank]
  | true =>
    rw [Bool.true_or, Reads, run_bind]
    rw [Reads] at hreads
    rcases hrun : x.run.run (blank s) with ⟨e | a, b⟩
    · rw [hrun] at hreads
      exact hreads
    · rw [hrun] at hreads
      exact (hf a b).settings_of_isSome hreads

/-- A sequence of lazy work is lazy. -/
theorem Lazy.bind {x : ExceptT ε (StateM σ) α} {f : α → ExceptT ε (StateM σ) β}
    (hx : Lazy x) (hf : ∀ a, Lazy (f a)) : Lazy (x >>= f) := by
  intro s
  have hbind := Lazy.reads_bind hx hf s
  constructor
  · intro hquiet
    rw [hquiet] at hbind
    obtain ⟨hreads, hrest⟩ := Bool.or_eq_false_iff.mp hbind.symm
    have hblank := (hx (blank s)).blank_of_quiet hreads
    rw [(hx s).quiet hreads] at hrest
    rw [run_bind, run_bind, (hx s).quiet hreads]
    rcases hrun : x.run.run (blank s) with ⟨e | a, b⟩
    · rfl
    · rw [hrun] at hblank hrest
      simp only [(hf a (restore s b)).quiet hrest, blank_restore, hblank, restore_restore]
  · intro hasked
    rw [hasked] at hbind
    have hsettles := (hx s).settles
    have hfirst := (hx s).asked
    rw [run_bind]
    rcases hrun : x.run.run s with ⟨e | a, s'⟩
    · rw [hrun] at hfirst hbind
      exact hfirst (by simpa using hbind.symm)
    · rw [hrun] at hsettles hfirst hbind
      refine ⟨((hf a s').env).trans hsettles.env, ?_⟩
      rw [(hf a s').settings, hsettles.active_eq]
      split
      · rfl
      · next hrest => exact (hfirst (by simpa [hrest] using hbind.symm)).2

/-! ## Steps -/

/-- What gives one result and leaves the state as it is. -/
theorem Lazy.of_run {x : ExceptT ε (StateM σ) α} {r : Except ε α} (h : ∀ s, x.run.run s = (r, s)) :
    Lazy x := by
  intro s
  have hreads : Reads x s = false := by simp [Reads, h, blank]
  constructor
  · intro _
    rw [h, h, restore_blank]
  · intro hasked
    rw [hreads] at hasked
    cases hasked

theorem Lazy.pure (a : α) : Lazy (pure a : ExceptT ε (StateM σ) α) :=
  .of_run fun _ => rfl

theorem Lazy.throw (e : ε) : Lazy (throw e : ExceptT ε (StateM σ) α) :=
  .of_run fun _ => rfl

/-- What is done to a state without a look at the settings and the environment, which stay. -/
theorem Lazy.modifyGet {f : σ → α × σ}
    (hf : ∀ s, f s = ((f (blank s)).1, restore s (f (blank s)).2))
    (hblank : ∀ s, (context (f (blank s)).2).settings = none) :
    Lazy (modifyGet f : ExceptT ε (StateM σ) α) := by
  intro s
  have hrun (s : σ) : (MonadState.modifyGet f : ExceptT ε (StateM σ) α).run.run s =
    (.ok (f s).1, (f s).2) := rfl
  have hreads : Reads (MonadState.modifyGet f : ExceptT ε (StateM σ) α) s = false := by
    rw [Reads, hrun, hblank]
    rfl
  constructor
  · intro _
    rw [hrun, hrun, hf s]
  · intro hasked
    rw [hreads] at hasked
    cases hasked

/-- A look at the state is no question. -/
theorem reads_get_bind {f : σ → ExceptT ε (StateM σ) β} {s : σ} (hblank : f (blank s) = f s) :
    Reads (get >>= f) s = Reads (f s) s := by
  rw [Reads, ← hblank]
  rfl

/-- What follows a look at the state is lazy if it does not depend on the settings and the
environment. -/
theorem Lazy.get_bind {f : σ → ExceptT ε (StateM σ) β} (hf : ∀ s, Lazy (f s))
    (hblank : ∀ s, f (blank s) = f s) : Lazy (get >>= f) := by
  intro s
  have hrun (s : σ) : (get >>= f).run.run s = (f s).run.run s := rfl
  obtain ⟨hquiet, hasked⟩ := hf s s
  rw [← reads_get_bind (hblank s)] at hquiet hasked
  constructor
  · intro hreads
    rw [hrun, hrun, hblank]
    exact hquiet hreads
  · intro hreads
    rw [hrun]
    exact hasked hreads

/-! ## Quiet work -/

/-- Lazy work that never asks. -/
structure Quiet (x : ExceptT ε (StateM σ) α) : Prop where
  lazy : Lazy x
  silent : ∀ s, Reads x s = false

theorem Quiet.of_run {x : ExceptT ε (StateM σ) α} {r : Except ε α} (h : ∀ s, x.run.run s = (r, s)) :
    Quiet x :=
  ⟨.of_run h, fun s => by simp [Reads, h, blank]⟩

@[grind ←] theorem Quiet.pure (a : α) : Quiet (pure a : ExceptT ε (StateM σ) α) :=
  .of_run fun _ => rfl

@[grind ←] theorem Quiet.throw (e : ε) : Quiet (throw e : ExceptT ε (StateM σ) α) :=
  .of_run fun _ => rfl

@[grind ←] theorem Quiet.bind {x : ExceptT ε (StateM σ) α} {f : α → ExceptT ε (StateM σ) β}
    (hx : Quiet x) (hf : ∀ a, Quiet (f a)) : Quiet (x >>= f) := by
  refine ⟨hx.lazy.bind fun a => (hf a).lazy, fun s => ?_⟩
  rw [hx.lazy.reads_bind fun a => (hf a).lazy, hx.silent, Bool.false_or]
  split
  · exact (hf _).silent _
  · rfl

theorem Quiet.get_bind {f : σ → ExceptT ε (StateM σ) β} (hf : ∀ s, Quiet (f s))
    (hblank : ∀ s, f (blank s) = f s) : Quiet (get >>= f) :=
  ⟨.get_bind (fun s => (hf s).lazy) hblank,
    fun s => (reads_get_bind (hblank s)).trans ((hf s).silent s)⟩

@[grind ←] theorem Quiet.forIn (as : List γ) (b : β)
    {body : γ → β → ExceptT ε (StateM σ) (ForInStep β)} (h : ∀ a b, Quiet (body a b)) :
    Quiet (forIn as b body) := by
  induction as generalizing b with
  | nil => exact .pure b
  | cons a as ih =>
    rw [List.forIn_cons]
    refine (h a b).bind fun step => ?_
    cases step with
    | done b' => exact .pure b'
    | yield b' => exact ih b'

/-! ## When work asks -/

/-- Whether work asks, or what is left to do behind it. -/
def asksThen (asked : Bool) (x : ExceptT ε (StateM σ) α) (s : σ) (rest : α → σ → Bool) : Bool :=
  asked || match x.run.run s with
    | (.ok a, s') => rest a s'
    | (.error _, _) => false

/-- Lazy work that asks under a condition. -/
structure AsksIf (asked : σ → Bool) (x : ExceptT ε (StateM σ) α) : Prop where
  lazy : Lazy x
  reads : ∀ s, Reads x s = asked s

section

variable {asked : σ → Bool} {x : ExceptT ε (StateM σ) α} {f : α → ExceptT ε (StateM σ) β}

theorem Quiet.asksIf (h : Quiet x) : AsksIf (fun _ => false) x :=
  ⟨h.lazy, h.silent⟩

theorem AsksIf.quiet (h : AsksIf asked x) (hasked : ∀ s, asked s = false) : Quiet x :=
  ⟨h.lazy, fun s => (h.reads s).trans (hasked s)⟩

theorem AsksIf.bind (hx : AsksIf asked x) {rest : α → σ → Bool} (hf : ∀ a, AsksIf (rest a) (f a)) :
    AsksIf (fun s => asksThen (asked s) x s rest) (x >>= f) := by
  refine ⟨hx.lazy.bind fun a => (hf a).lazy, fun s => ?_⟩
  rw [hx.lazy.reads_bind fun a => (hf a).lazy, hx.reads, asksThen]
  rcases x.run.run s with ⟨e | a, s'⟩
  · rfl
  · exact congrArg (asked s || ·) ((hf a).reads s')

/-- Quiet work behind it adds no question. -/
theorem AsksIf.bind_quiet (hx : AsksIf asked x) (hf : ∀ a, Quiet (f a)) : AsksIf asked (x >>= f) := by
  refine ⟨hx.lazy.bind fun a => (hf a).lazy, fun s => ?_⟩
  rw [hx.lazy.reads_bind fun a => (hf a).lazy, hx.reads]
  split
  · rw [(hf _).silent, Bool.or_false]
  · rw [Bool.or_false]

/-- Behind a question there may be more of them. -/
theorem AsksIf.question_bind (hx : AsksIf (fun _ => true) x) (hf : ∀ a, Lazy (f a)) :
    AsksIf (fun _ => true) (x >>= f) :=
  ⟨hx.lazy.bind hf, fun s => by rw [hx.lazy.reads_bind hf, hx.reads, Bool.true_or]⟩

/-- A look at the state is no question. -/
theorem AsksIf.get_bind {f : σ → ExceptT ε (StateM σ) β} {rest : σ → σ → Bool}
    (hf : ∀ s, AsksIf (rest s) (f s)) (hblank : ∀ s, f (blank s) = f s) :
    AsksIf (fun s => rest s s) (get >>= f) :=
  ⟨.get_bind (fun s => (hf s).lazy) hblank,
    fun s => (reads_get_bind (hblank s)).trans ((hf s).reads s)⟩

/-- Behind quiet work that succeeds, the rest asks as it does for its result. -/
theorem AsksIf.quiet_bind (hx : Quiet x) {r : σ → α} {g : σ → σ}
    (hrun : ∀ s, x.run.run s = (.ok (r s), g s)) {rest : α → σ → Bool}
    (hf : ∀ a, AsksIf (rest a) (f a)) : AsksIf (fun s => rest (r s) (g s)) (x >>= f) := by
  refine ⟨hx.lazy.bind fun a => (hf a).lazy, fun s => ?_⟩
  rw [hx.lazy.reads_bind fun a => (hf a).lazy, hx.silent, hrun, Bool.false_or]
  exact (hf (r s)).reads (g s)

end

/-! ## In a context -/

theorem reads_activeSettings (c : Context) : Reads activeSettings c = true := by
  have hactive := isSome_active_blank c
  rw [context_self] at hactive
  rw [Reads, context_self, (run_activeSettings_snd (blank c)).1, hactive]

theorem activeSettings_lazy : Lazy activeSettings := by
  intro c
  obtain ⟨hsettings, henv⟩ := run_activeSettings_snd c
  refine ⟨fun hquiet => ?_, fun _ => ⟨henv, hsettings⟩⟩
  rw [reads_activeSettings] at hquiet
  cases hquiet

theorem activeSettings_asksIf : AsksIf (fun _ => true) activeSettings :=
  ⟨activeSettings_lazy, reads_activeSettings⟩

theorem mayBeConstant_asksIf : AsksIf (fun _ => true) (mayBeConstant none) :=
  activeSettings_asksIf.bind_quiet fun _ => .pure _

theorem logRecord_lazy (level : LogLevel) (logger message : String) :
    Lazy (logRecord level logger message : InContext ε Unit) :=
  .modifyGet (fun _ => rfl) fun _ => rfl

theorem Lazy.ofExcept (f : δ → ε) (r : Except δ α) : Lazy (InContext.ofExcept f r) := by
  cases r with
  | error e => exact .throw _
  | ok a => exact .pure a

@[grind ←] theorem Quiet.ofExcept (f : δ → ε) (r : Except δ α) :
    Quiet (InContext.ofExcept f r) := by
  cases r with
  | error e => exact .throw _
  | ok a => exact .pure a

theorem reads_mapError (x : InContext δ α) (f : δ → ε) (c : Context) :
    Reads (x.mapError f) c = Reads x c := by
  rw [Reads, Reads, InContext.run_mapError]

/-- Another form of the failures. -/
theorem Lazy.mapError {x : InContext δ α} (h : Lazy x) (f : δ → ε) : Lazy (x.mapError f) := by
  intro c
  obtain ⟨hquiet, hasked⟩ := h c
  rw [← reads_mapError x f] at hquiet hasked
  constructor
  · intro hreads
    rw [InContext.run_mapError, InContext.run_mapError, hquiet hreads]
  · intro hreads
    rw [InContext.run_mapError]
    exact hasked hreads

theorem AsksIf.mapError {asked : Context → Bool} {x : InContext δ α} (h : AsksIf asked x)
    (f : δ → ε) : AsksIf asked (x.mapError f) :=
  ⟨h.lazy.mapError f, fun c => (reads_mapError x f c).trans (h.reads c)⟩

@[grind ←] theorem Quiet.mapError {x : InContext δ α} (h : Quiet x) (f : δ → ε) :
    Quiet (x.mapError f) :=
  (h.asksIf.mapError f).quiet fun _ => rfl

/-! ## In the world -/

@[grind ←] theorem Quiet.lift (f : ε → Failure) (r : Except ε α) : Quiet (Action.lift f r) := by
  cases r with
  | error e => exact .throw _
  | ok a => exact .pure a

theorem reads_inContext (f : ε → Failure) (x : InContext ε α) (w : World) :
    Reads (Action.inContext f x) w = Reads x w.toContext := by
  rw [Reads, Reads, Action.run_inContext]
  rfl

theorem Lazy.inContext {x : InContext ε α} (h : Lazy x) (f : ε → Failure) :
    Lazy (Action.inContext f x) := by
  intro w
  obtain ⟨hquiet, hasked⟩ := h w.toContext
  rw [← reads_inContext f] at hquiet hasked
  constructor
  · intro hreads
    rw [Action.run_inContext, Action.run_inContext, hquiet hreads]
    rfl
  · intro hreads
    rw [Action.run_inContext]
    exact hasked hreads

theorem AsksIf.inContext {asked : Context → Bool} {x : InContext ε α} (h : AsksIf asked x)
    (f : ε → Failure) : AsksIf (fun w => asked w.toContext) (Action.inContext f x) :=
  ⟨h.lazy.inContext f, fun w => (reads_inContext f x w).trans (h.reads w.toContext)⟩

/-- What is done to the cells alone. -/
theorem Quiet.modifyStore (f : Store → α × Store) :
    Quiet (MonadState.modifyGet fun w : World =>
      ((f w.store).1, { w with store := (f w.store).2 }) : Action α) :=
  ⟨.modifyGet (fun _ => rfl) fun _ => rfl, fun _ => rfl⟩

/-- A look at the cells. -/
@[grind ←] theorem Quiet.look {f : World → Action β} (hf : ∀ w, Quiet (f w))
    (hcontext : ∀ (w : World) (c : Context), f { w with toContext := c } = f w) :
    Quiet (get >>= f) :=
  .get_bind hf fun w => hcontext w _

end Sgr
