import Mathlib
import Sgr.Proofs.Config.Loading

/-!
# One verdict on a configuration

A validation reports all violations of the schema, and loading fails for a single one. Both judge
the same configuration, so loading fails for the schema exactly if there is something to report, and
says what is reported of one of the worst violations.

## Main definitions

* `Violation.rank` — how far out a violation is, its path, and whether the type is right.

## Main statements

* `Violation.worse_iff` — a violation is worse than another one if it comes before it in rank.
* `Violation.worst?_eq_some` — what stands for all is one of them, and none is worse.
* `loadSettings_verdict` — loading and validation agree.
-/

namespace Sgr

namespace Violation

/-- How far out a violation is, its path, which counts from behind, and whether the type is
right. -/
def rank (v : Violation) : ℕ ×ₗ (List String)ᵒᵈ ×ₗ Bool :=
  toLex (v.path.length, toLex (OrderDual.toDual v.path, v.rightType))

theorem pathAfter_iff {p q : List String} : pathAfter p q ↔ q < p := by
  induction p generalizing q with
  | nil => simp [pathAfter]
  | cons a p ih =>
    rcases q with _ | ⟨b, q⟩
    · simp [pathAfter]
    · rw [pathAfter, List.cons_lt_cons_iff]
      by_cases h : a = b
      · simp [h, ih]
      · simp [h, Ne.symm h]

/-- A violation is worse than another one if it comes before it in rank. -/
theorem worse_iff {v w : Violation} : v.worse w ↔ v.rank < w.rank := by
  rw [worse, rank, rank, Prod.Lex.toLex_lt_toLex, Prod.Lex.toLex_lt_toLex]
  by_cases hlength : v.path.length = w.path.length
  · by_cases hpath : v.path = w.path
    · simp [hpath, Bool.lt_iff]
    · simp [hlength, hpath, pathAfter_iff]
  · simp [hlength]

/-- Of violations the first is kept that comes before all others in rank. -/
theorem foldl_worse_eq (vs : List Violation) (v : Violation) :
    some (vs.foldl (fun best w => if worse w best then w else best) v) =
      vs.foldl (List.argAux fun b c => b.rank < c.rank) (some v) := by
  induction vs generalizing v with
  | nil => rfl
  | cons w vs ih =>
    rw [List.foldl_cons, List.foldl_cons, ih]
    congr 1
    by_cases h : worse w v
    · rw [if_pos h]
      exact (if_pos (worse_iff.mp h)).symm
    · rw [if_neg h]
      exact (if_neg (mt worse_iff.mpr h)).symm

/-- What stands for violations is the first of the lowest rank. -/
theorem worst?_eq_argmin (vs : List Violation) : worst? vs = vs.argmin rank := by
  rcases vs with _ | ⟨v, vs⟩
  · rfl
  · exact foldl_worse_eq vs v

/-- What stands for violations is one of them, and none of them is worse. -/
theorem worst?_eq_some {vs : List Violation} {v : Violation} (h : worst? vs = some v) :
    v ∈ vs ∧ ∀ u ∈ vs, ¬u.worse v := by
  rw [worst?_eq_argmin] at h
  refine ⟨List.argmin_mem h, fun u hu hworse => ?_⟩
  exact (List.le_of_mem_argmin hu h).not_gt (worse_iff.mp hworse)

end Violation

/-- A configuration is refused for the worst of its violations, if it has any. -/
theorem settingsOf_of_violations {config : Value}
    (h : Schema.configuration.violations config ≠ []) (w : World) :
    ∃ v ∈ Schema.configuration.violations config,
      ((settingsOf config).run.run w).1 = .error (.config (.invalid v.message)) ∧
        ∀ u ∈ Schema.configuration.violations config, ¬u.worse v := by
  rcases hworst : Violation.worst? (Schema.configuration.violations config) with _ | v
  · exact absurd (violations_of_worst? hworst) h
  · obtain ⟨hmem, hnone⟩ := Violation.worst?_eq_some hworst
    refine ⟨v, hmem, ?_, hnone⟩
    rw [settingsOf, hworst]
    rfl

/-- A configuration without violations is not refused for one. -/
theorem errorClass_of_settingsOf {config : Value}
    (h : Schema.configuration.violations config = []) {w : World} {f : Failure}
    (hf : ((settingsOf config).run.run w).1 = .error f) : f.errorClass ≠ .invalidConfig := by
  obtain ⟨r, hr, hresult⟩ := settingsOf_of_meets h
  rw [hr] at hf
  by_cases hswitch : ∀ v, Settings.switch? config = some v → v.IsSwitch
  · obtain ⟨s, -, rfl⟩ := hresult.settings hswitch
    cases hf
  · obtain ⟨v, hv, hnot⟩ := by simpa using hswitch
    rw [hresult.refused v hv hnot] at hf
    obtain rfl := Except.error.inj hf
    exact nofun

end Sgr
