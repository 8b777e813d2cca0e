import Mathlib.Order.Defs.Unbundled
import Sgr.Proofs.Running

/-!
# What work keeps

Work keeps a relation if it ends in a state that is related to the one it started in, whether it
succeeds or fails, and if each of its failures is one that may be found in the state behind it. When
the relation is a preorder, a sequence keeps what its parts keep. The lemmas that say so are tagged
for `grind`, so that a piece of work is settled by what it calls.

## Main definitions

* `KeepsAt`, `Keeps` — work that keeps a relation, from one state or from every state.
* `AnyFailure` — for work whose failures do not matter.

## Main statements

* `KeepsAt.bind`, `Keeps.bind` — a sequence keeps what its parts keep.
* `Keeps.forIn`, `Keeps.mapM` — so does a loop.
* `KeepsAt.imp` — what keeps a relation keeps a weaker one.
-/

namespace Sgr

variable {σ ε α β γ : Type} {R : σ → σ → Prop} {F : ε → σ → Prop}

/-- From a state, work ends in one that is related to it, and if it fails, then with a failure that
may be found there. -/
structure KeepsAt (R : σ → σ → Prop) (F : ε → σ → Prop) (s : σ) (x : ExceptT ε (StateM σ) α) :
    Prop where
  state : R s (x.run.run s).2
  failure : ∀ e, (x.run.run s).1 = .error e → F e (x.run.run s).2

/-- From every state, work ends in a related one. -/
def Keeps (R : σ → σ → Prop) (F : ε → σ → Prop) (x : ExceptT ε (StateM σ) α) : Prop :=
  ∀ s, KeepsAt R F s x

/-- Any failure may be found anywhere. -/
def AnyFailure (_ : ε) (_ : σ) : Prop :=
  True

@[grind ←] theorem anyFailure (e : ε) (s : σ) : AnyFailure e s :=
  trivial

theorem Keeps.keepsAt {x : ExceptT ε (StateM σ) α} (h : Keeps R F x) (s : σ) : KeepsAt R F s x :=
  h s

theorem KeepsAt.imp {R' : σ → σ → Prop} {F' : ε → σ → Prop} {s : σ} {x : ExceptT ε (StateM σ) α}
    (h : KeepsAt R F s x) (hR : ∀ s', R s s' → R' s s') (hF : ∀ e s', F e s' → F' e s') :
    KeepsAt R' F' s x :=
  ⟨hR _ h.state, fun e he => hF e _ (h.failure e he)⟩

/-! ## Steps -/

@[grind ←] theorem Keeps.modify {f : σ → σ} (h : ∀ s, R s (f s)) :
    Keeps R F (modify f : ExceptT ε (StateM σ) PUnit) :=
  fun s => ⟨h s, fun _ he => by cases he⟩

@[grind ←] theorem Keeps.modifyGet {f : σ → α × σ} (h : ∀ s, R s (f s).2) :
    Keeps R F (modifyGet f : ExceptT ε (StateM σ) α) :=
  fun s => ⟨h s, fun _ he => by cases he⟩

variable [IsPreorder σ R]

theorem KeepsAt.pure (s : σ) (a : α) : KeepsAt R F s (pure a : ExceptT ε (StateM σ) α) :=
  ⟨refl_of R s, fun _ he => by cases he⟩

theorem KeepsAt.throw {s : σ} {e : ε} (h : F e s) :
    KeepsAt R F s (throw e : ExceptT ε (StateM σ) α) :=
  ⟨refl_of R s, fun _ he => by cases he; exact h⟩

@[grind ←] theorem Keeps.pure (a : α) : Keeps R F (pure a : ExceptT ε (StateM σ) α) :=
  fun s => .pure s a

@[grind ←] theorem Keeps.throw {e : ε} (h : ∀ s, F e s) :
    Keeps R F (throw e : ExceptT ε (StateM σ) α) :=
  fun s => .throw (h s)

@[grind ←] theorem Keeps.get : Keeps R F (get : ExceptT ε (StateM σ) σ) :=
  fun s => ⟨refl_of R s, fun _ he => by cases he⟩

/-! ## Sequences -/

/-- The rest of a sequence has to keep the relation only from the states in which it starts. -/
theorem KeepsAt.bind {s : σ} {x : ExceptT ε (StateM σ) α} {f : α → ExceptT ε (StateM σ) β}
    (hx : KeepsAt R F s x)
    (hf : ∀ a s', x.run.run s = (.ok a, s') → KeepsAt R F s' (f a)) : KeepsAt R F s (x >>= f) := by
  obtain ⟨hstate, hfailure⟩ := hx
  rcases hrun : x.run.run s with ⟨e | a, s'⟩
  · have hbind : (x >>= f).run.run s = (.error e, s') := by rw [run_bind, hrun]
    rw [hrun] at hstate hfailure
    refine ⟨by rw [hbind]; exact hstate, fun e' he => ?_⟩
    rw [hbind] at he ⊢
    cases he
    exact hfailure e rfl
  · rw [hrun] at hstate
    have hrest := hf a s' hrun
    have hbind : (x >>= f).run.run s = (f a).run.run s' := by rw [run_bind, hrun]
    refine ⟨by rw [hbind]; exact trans_of R hstate hrest.state, fun e he => ?_⟩
    rw [hbind] at he ⊢
    exact hrest.failure e he

theorem KeepsAt.get_bind {s : σ} {f : σ → ExceptT ε (StateM σ) β} (h : KeepsAt R F s (f s)) :
    KeepsAt R F s (get >>= f) :=
  (Keeps.get s).bind fun _ _ hrun => by cases hrun; exact h

@[grind ←] theorem Keeps.bind {x : ExceptT ε (StateM σ) α} {f : α → ExceptT ε (StateM σ) β}
    (hx : Keeps R F x) (hf : ∀ a, Keeps R F (f a)) : Keeps R F (x >>= f) :=
  fun s => (hx s).bind fun a s' _ => hf a s'

@[grind ←] theorem Keeps.mapM (as : List γ) {f : γ → ExceptT ε (StateM σ) β}
    (h : ∀ a, Keeps R F (f a)) : Keeps R F (as.mapM f) := by
  induction as with
  | nil => exact .pure []
  | cons a as ih =>
    rw [List.mapM_cons]
    exact (h a).bind fun b => ih.bind fun bs => .pure (b :: bs)

@[grind ←] theorem Keeps.forIn (as : List γ) (b : β)
    {body : γ → β → ExceptT ε (StateM σ) (ForInStep β)} (h : ∀ a b, Keeps R F (body a b)) :
    Keeps R F (forIn as b body) := by
  induction as generalizing b with
  | nil => exact .pure b
  | cons a as ih =>
    rw [List.forIn_cons]
    refine (h a b).bind fun step => ?_
    cases step with
    | done b' => exact .pure b'
    | yield b' => exact ih b'

end Sgr
