import Sgr.Proofs.Session.Evaluation
import Sgr.Session.Run

/-!
# Runs of sessions

The session behind steps is the last one of a run. What is said of a step can be said of every step
of a run, in the session in which the step is taken.

## Main definitions

* `Session.after` — the session behind steps.
* `Session.Along` — what holds of every step of a run.

## Main statements

* `Operation.eval_eq_run` — the answer of an operation is its value.
* `Session.step_spec` — a step is its operation, and cells for its result if that gets a name.
* `Session.run_append` — a run goes on in the session behind its first part.
* `Session.after_invariant` — what every step preserves, a run preserves.
-/

namespace Sgr

/-- The answer of an operation is its value. -/
theorem Operation.eval_eq_run (vars : Variables) (o : Operation) (w : World) :
    (o.eval vars).run.run w =
      (((o.run vars).run.run w).1.map Answer.toValue, ((o.run vars).run.run w).2) := by
  have general : (o.eval vars).run.run w =
      (((do return Answer.value (← o.eval vars) : Action Answer).run.run w).1.map Answer.toValue,
        ((do return Answer.value (← o.eval vars) : Action Answer).run.run w).2) := by
    rw [run_bind]
    rcases (o.eval vars).run.run w with ⟨e | v, w'⟩ <;> rfl
  cases o with
  | commandLine args keepsControl => rfl
  | _ => exact general

namespace Session

/-! ## A step -/

/-- How a step ends is how its operation ends, and naming a result only adds cells. -/
theorem step_spec (s : Session) (t : Step) :
    let behind := (t.operation.run s.results).run.run s.world
    (s.step t).1 = behind.1 ∧ (s.step t).2.world.toContext = behind.2.toContext ∧
      behind.2.store.cells <+: (s.step t).2.world.store.cells := by
  unfold step
  rcases (t.operation.run s.results).run.run s.world with ⟨r, w⟩
  rcases r with e | a <;> rcases t.name with _ | name
  · exact ⟨rfl, rfl, List.prefix_rfl⟩
  · exact ⟨rfl, rfl, List.prefix_rfl⟩
  · exact ⟨rfl, rfl, List.prefix_rfl⟩
  · exact ⟨rfl, rfl, w.store.share_cells a.toValue⟩

/-! ## Steps -/

/-- The session behind steps. -/
def after (s : Session) : List Step → Session
  | [] => s
  | t :: ts => (s.step t).2.after ts

/-- Every step of a run is as it should be in the session in which it is taken. -/
def Along (P : Session → Step → Prop) (s : Session) : List Step → Prop
  | [] => True
  | t :: ts => P s t ∧ (s.step t).2.Along P ts

/-- What holds of every step holds along every run. -/
theorem along_of_forall {P : Session → Step → Prop} (h : ∀ s t, P s t) {s : Session}
    {ts : List Step} : s.Along P ts := by
  induction ts generalizing s with
  | nil => trivial
  | cons t ts ih => exact ⟨h s t, ih⟩

theorem after_append (s : Session) (ts us : List Step) :
    s.after (ts ++ us) = (s.after ts).after us := by
  induction ts generalizing s with
  | nil => rfl
  | cons t ts ih => exact ih (s.step t).2

theorem run_append (s : Session) (ts us : List Step) :
    s.run (ts ++ us) = s.run ts ++ (s.after ts).run us := by
  induction ts generalizing s with
  | nil => rfl
  | cons t ts ih => exact congrArg (_ :: ·) (ih (s.step t).2)

/-- What each step preserves under a condition, a run preserves along which the condition holds. -/
theorem after_invariant {I : Session → Prop} {P : Session → Step → Prop}
    (hstep : ∀ s t, I s → P s t → I (s.step t).2) {s : Session} (hs : I s) {ts : List Step}
    (hts : s.Along P ts) : I (s.after ts) := by
  induction ts generalizing s with
  | nil => exact hs
  | cons t ts ih => exact ih (hstep s t hs hts.1) hts.2

end Session

end Sgr
