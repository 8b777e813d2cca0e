import Sgr.World

/-!
# Running work

What works on a state is a function of it: a result or a failure, and the state behind it. Two
pieces of work are the same if they are so in every state. Giving failures another form commutes
with sequencing, so statements that hold only up to the form of a failure can be taken apart step by
step. An action that touches the context alone leaves the rest of the world as it is.

## Main statements

* `run_ext` — work is determined by how it runs.
* `run_bind` — a sequence stops at the first failure and keeps the state of that moment.
* `InContext.mapError_bind` — the failures of a sequence are those of its parts.
* `Action.run_inContext` — what an action in the context does to the world.
-/

namespace Sgr

/-! ## Without effects -/

section Results

variable {ε δ α β : Type}

theorem exists_of_bind_ok {r : Except ε α} {f : α → Except ε β} {b : β} (h : r >>= f = .ok b) :
    ∃ a, r = .ok a ∧ f a = .ok b := by
  cases r with
  | error e => cases h
  | ok a => exact ⟨a, rfl, h⟩

theorem exists_of_map_ok {r : Except ε α} {f : α → β} {b : β} (h : r.map f = .ok b) :
    ∃ a, r = .ok a ∧ f a = b := by
  cases r with
  | error e => cases h
  | ok a => exact ⟨a, rfl, Except.ok.inj h⟩

theorem mapError_eq_ok {r : Except ε α} {f : ε → δ} {a : α} :
    r.mapError f = .ok a ↔ r = .ok a := by
  constructor
  · intro h
    cases r with
    | error e => cases h
    | ok b => exact congrArg Except.ok (Except.ok.inj h)
  · rintro rfl
    rfl

theorem mapError_eq_error {r : Except ε α} {f : ε → δ} {d : δ} :
    r.mapError f = .error d ↔ ∃ e, r = .error e ∧ f e = d := by
  constructor
  · intro h
    cases r with
    | error e => exact ⟨e, rfl, Except.error.inj h⟩
    | ok a => cases h
  · rintro ⟨e, rfl, rfl⟩
    rfl

/-- The failures of a sequence are those of its parts. -/
theorem mapError_bind (r : Except ε α) (g : α → Except ε β) (f : ε → δ) :
    (r >>= g).mapError f = r.mapError f >>= fun a => (g a).mapError f := by
  cases r <;> rfl

theorem mapError_map (r : Except ε α) (g : α → β) (f : ε → δ) :
    (r.map g).mapError f = (r.mapError f).map g := by
  cases r <;> rfl

end Results

/-! ## Steps -/

section Steps

variable {σ ε α β : Type}

theorem run_ext {x y : ExceptT ε (StateM σ) α} (h : ∀ s, x.run.run s = y.run.run s) : x = y :=
  ExceptT.ext (StateT.ext h)

@[simp] theorem run_pure (a : α) (s : σ) :
    (pure a : ExceptT ε (StateM σ) α).run.run s = (.ok a, s) := rfl

@[simp] theorem run_throw (e : ε) (s : σ) :
    (throw e : ExceptT ε (StateM σ) α).run.run s = (.error e, s) := rfl

theorem run_get (s : σ) : (get : ExceptT ε (StateM σ) σ).run.run s = (.ok s, s) := rfl

theorem run_bind (x : ExceptT ε (StateM σ) α) (f : α → ExceptT ε (StateM σ) β) (s : σ) :
    (x >>= f).run.run s =
      match x.run.run s with
      | (.ok a, s') => (f a).run.run s'
      | (.error e, s') => (.error e, s') := by
  simp only [ExceptT.run_bind, StateT.run_bind]
  rcases x.run.run s with ⟨_ | a, s'⟩ <;> rfl

theorem run_bind_ok {x : ExceptT ε (StateM σ) α} {a : α} {s s' : σ}
    (h : x.run.run s = (.ok a, s')) (f : α → ExceptT ε (StateM σ) β) :
    (x >>= f).run.run s = (f a).run.run s' := by
  rw [run_bind, h]

theorem run_bind_error {x : ExceptT ε (StateM σ) α} {e : ε} {s s' : σ}
    (h : x.run.run s = (.error e, s')) (f : α → ExceptT ε (StateM σ) β) :
    (x >>= f).run.run s = (.error e, s') := by
  rw [run_bind, h]

/-- A sequence that succeeds consists of steps that succeed. -/
theorem exists_of_run_bind {x : ExceptT ε (StateM σ) α} {f : α → ExceptT ε (StateM σ) β} {s s' : σ}
    {b : β} (h : (x >>= f).run.run s = (.ok b, s')) :
    ∃ a s₁, x.run.run s = (.ok a, s₁) ∧ (f a).run.run s₁ = (.ok b, s') := by
  rw [run_bind] at h
  rcases hx : x.run.run s with ⟨e | a, s₁⟩
  · rw [hx] at h
    cases h
  · rw [hx] at h
    exact ⟨a, s₁, rfl, h⟩

end Steps

/-! ## In a context -/

namespace InContext

variable {ε δ τ α β : Type}

@[simp] theorem ofExcept_ok (f : δ → ε) (a : α) : ofExcept f (.ok a) = pure a := rfl

@[simp] theorem ofExcept_error (f : δ → ε) (e : δ) :
    (ofExcept f (.error e) : InContext ε α) = throw (f e) := rfl

theorem run_mapError (f : δ → ε) (x : InContext δ α) (c : Context) :
    (mapError f x).run.run c = ((x.run.run c).1.mapError f, (x.run.run c).2) := rfl

/-- A success is one whatever form the failures have. -/
theorem run_of_mapError {f : δ → ε} {x : InContext δ α} {c c' : Context} {a : α}
    (h : (mapError f x).run.run c = (.ok a, c')) : x.run.run c = (.ok a, c') := by
  rw [run_mapError] at h
  rcases hrun : x.run.run c with ⟨e | b, c''⟩
  · rw [hrun] at h
    cases h
  · rw [hrun] at h
    cases h
    rfl

/-- Work that succeeds without effects does so whatever form its failures have. -/
theorem eq_pure_of_mapError {f : δ → ε} {x : InContext δ α} {a : α}
    (h : mapError f x = pure a) : x = pure a := by
  apply run_ext
  intro c
  apply run_of_mapError (f := f)
  rw [h]
  rfl

@[simp] theorem mapError_pure (f : δ → ε) (a : α) :
    mapError f (pure a : InContext δ α) = pure a := rfl

@[simp] theorem mapError_throw (f : δ → ε) (e : δ) :
    mapError f (throw e : InContext δ α) = throw (f e) := rfl

@[simp] theorem mapError_bind (f : δ → ε) (x : InContext δ α) (g : α → InContext δ β) :
    mapError f (x >>= g) = mapError f x >>= fun a => mapError f (g a) := by
  apply run_ext
  intro c
  simp only [run_mapError, run_bind]
  rcases x.run.run c with ⟨_ | a, c'⟩ <;> rfl

@[simp] theorem mapError_map (f : δ → ε) (x : InContext δ α) (g : α → β) :
    mapError f (g <$> x) = g <$> mapError f x := by
  rw [map_eq_pure_bind, map_eq_pure_bind, mapError_bind]
  rfl

@[simp] theorem mapError_mapError (f : δ → ε) (g : ε → τ) (x : InContext δ α) :
    mapError g (mapError f x) = mapError (g ∘ f) x := by
  apply run_ext
  intro c
  simp only [run_mapError]
  rcases x.run.run c with ⟨_ | a, c'⟩ <;> rfl

end InContext

/-! ## In the world -/

namespace Action

variable {ε α : Type}

theorem run_inContext (f : ε → Failure) (x : InContext ε α) (w : World) :
    (inContext f x).run.run w =
      ((x.run.run w.toContext).1.mapError f,
        { w with toContext := (x.run.run w.toContext).2 }) := by
  have hlift (r : Except ε α) (w : World) : (lift f r).run.run w = (r.mapError f, w) := by
    cases r <;> rfl
  exact hlift _ _

theorem run_inContext_ok {f : ε → Failure} {x : InContext ε α} {w : World} {a : α} {c : Context}
    (h : x.run.run w.toContext = (.ok a, c)) :
    (inContext f x).run.run w = (.ok a, { w with toContext := c }) := by
  rw [run_inContext, h]
  rfl

/-- An action in the context succeeds if its work does. -/
theorem exists_of_run_inContext {f : ε → Failure} {x : InContext ε α} {w w' : World} {a : α}
    (h : (inContext f x).run.run w = (.ok a, w')) :
    ∃ c, x.run.run w.toContext = (.ok a, c) ∧ w' = { w with toContext := c } := by
  rw [run_inContext] at h
  rcases hx : x.run.run w.toContext with ⟨e | b, c⟩
  · rw [hx] at h
    cases h
  · rw [hx] at h
    cases h
    exact ⟨c, rfl, rfl⟩

end Action

end Sgr
