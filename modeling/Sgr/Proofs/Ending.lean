import Sgr.Proofs.Running

/-!
# How work ends

Work ends with a result or with a failure. Where it matters which failures there can be, both are
told together: what the results are, since the rest of the work goes on from them, and what the
failures are. Work in a context is told by how it ends in every context.

## Main definitions

* `Ends` — the results and the failures of a piece of work without effects.
* `InContext.Ends` — those of work in a context.

## Main statements

* `Ends.bind`, `InContext.Ends.bind` — a sequence ends as its parts do.
-/

namespace Sgr

variable {ε δ α β : Type} {P : α → Prop} {Q : β → Prop} {E : ε → Prop}

/-- A result has a property, and a failure has another. -/
def Ends (P : α → Prop) (E : ε → Prop) : Except ε α → Prop
  | .ok a => P a
  | .error e => E e

namespace Ends

theorem of_forall {r : Except ε α} (hok : ∀ a, r = .ok a → P a)
    (herror : ∀ e, r = .error e → E e) : Ends P E r := by
  cases r with
  | ok a => exact hok a rfl
  | error e => exact herror e rfl

theorem imp {P' : α → Prop} {E' : ε → Prop} {r : Except ε α} (h : Ends P E r)
    (hok : ∀ a, P a → P' a) (herror : ∀ e, E e → E' e) : Ends P' E' r := by
  cases r with
  | ok a => exact hok a h
  | error e => exact herror e h

theorem bind {r : Except ε α} {f : α → Except ε β} (h : Ends P E r)
    (hf : ∀ a, P a → Ends Q E (f a)) : Ends Q E (r >>= f) := by
  cases r with
  | ok a => exact hf a h
  | error e => exact h

theorem map {r : Except ε α} {f : α → β} (h : Ends P E r) (hf : ∀ a, P a → Q (f a)) :
    Ends Q E (r.map f) := by
  cases r with
  | ok a => exact hf a h
  | error e => exact h

/-- Something is refused on a condition. -/
theorem refuse {c : Prop} [Decidable c] {e : ε} {r : Except ε α} (he : E e) (h : Ends P E r) :
    Ends P E (if c then .error e else r) := by
  by_cases hc : c
  · rw [if_pos hc]
    exact he
  · rw [if_neg hc]
    exact h

/-- Another form of the failures. -/
theorem mapError {D : δ → Prop} {r : Except δ α} {f : δ → ε} (h : Ends P D r)
    (hf : ∀ e, D e → E (f e)) : Ends P E (r.mapError f) := by
  cases r with
  | ok a => exact h
  | error e => exact hf e h

end Ends

namespace InContext

/-- In every context a result has a property, and a failure has another. -/
def Ends (P : α → Prop) (E : ε → Prop) (x : InContext ε α) : Prop :=
  ∀ c, Sgr.Ends P E (x.run.run c).1

namespace Ends

theorem pure {a : α} (h : P a) : Ends P E (pure a : InContext ε α) :=
  fun _ => h

theorem throw {e : ε} (h : E e) : Ends P E (throw e : InContext ε α) :=
  fun _ => h

theorem ofExcept {D : δ → Prop} {r : Except δ α} {f : δ → ε} (h : Sgr.Ends P D r)
    (hf : ∀ e, D e → E (f e)) : Ends P E (InContext.ofExcept f r) := by
  cases r with
  | ok a => exact .pure h
  | error e => exact .throw (hf e h)

theorem bind {x : InContext ε α} {f : α → InContext ε β} (hx : Ends P E x)
    (hf : ∀ a, P a → Ends Q E (f a)) : Ends Q E (x >>= f) := by
  intro c
  have hfirst := hx c
  rcases hrun : x.run.run c with ⟨e | a, c'⟩
  · rw [hrun] at hfirst
    rw [run_bind_error hrun]
    exact hfirst
  · rw [hrun] at hfirst
    rw [run_bind_ok hrun]
    exact hf a hfirst c'

theorem mapError {D : δ → Prop} {x : InContext δ α} {f : δ → ε} (h : Ends P D x)
    (hf : ∀ e, D e → E (f e)) : Ends P E (x.mapError f) :=
  fun c => (h c).mapError hf

end Ends

end InContext

end Sgr
