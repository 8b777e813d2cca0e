import Sgr.Sequence
import Sgr.Template.Script

/-!
# The characters of a sequence

Between its introducer and the final `m`, a sequence has the decimal digits of its parameters with
semicolons between them. None of these characters is a brace, so a sequence is plain text in a
template.

## Main definitions

* `paramChars` — the characters of parameters.

## Main statements

* `sgr_of_ne_nil` — the sequence of parameters.
* `isParamChar_of_mem_paramChars` — what stands between introducer and final `m`.
* `plain_sgr` — a sequence has no braces.
-/

namespace Sgr

/-- The characters of parameters, between the introducer and the final `m`. -/
def paramChars (params : List Nat) : List Char :=
  [';'].intercalate (params.map (Number.digits 10))

theorem paramChars_singleton (n : Nat) : paramChars [n] = Number.digits 10 n := by
  simp [paramChars, List.intercalate]

theorem paramChars_cons_cons (n m : Nat) (params : List Nat) :
    paramChars (n :: m :: params) = Number.digits 10 n ++ ';' :: paramChars (m :: params) := by
  simp [paramChars, List.intercalate]

theorem sgr_of_ne_nil {params : List Nat} (h : params ≠ []) :
    sgr params = introducer ++ paramChars params ++ ['m'] := by
  simp [sgr, sequenceOf, paramChars, h]

/-! ## Which characters -/

theorem isParamChar_of_mem_digits {n : Nat} {c : Char} (h : c ∈ Number.digits 10 n) :
    isParamChar c := by
  simp [isParamChar, Nat.isDigit_of_mem_toDigits (by decide) (by decide) h]

theorem isParamChar_of_mem_paramChars {params : List Nat} {c : Char}
    (h : c ∈ paramChars params) : isParamChar c := by
  induction params with
  | nil => cases h
  | cons n params ih =>
    rcases params with _ | ⟨m, params⟩
    · exact isParamChar_of_mem_digits (paramChars_singleton n ▸ h)
    · rw [paramChars_cons_cons, List.mem_append, List.mem_cons] at h
      rcases h with h | rfl | h
      · exact isParamChar_of_mem_digits h
      · rfl
      · exact ih h

theorem plain_of_isParamChar {c : Char} (h : isParamChar c) : Script.isPlain c := by
  have ho : c ≠ '\x7b' := by
    rintro rfl
    simp [isParamChar] at h
  have hc : c ≠ '\x7d' := by
    rintro rfl
    simp [isParamChar] at h
  simp [Script.isPlain, ho, hc]

/-- A sequence has no braces. -/
theorem plain_sgr (params : List Nat) : (sgr params).all Script.isPlain := by
  by_cases h : params = []
  · subst h
    rfl
  · rw [sgr_of_ne_nil h, List.all_append, List.all_append, Bool.and_eq_true, Bool.and_eq_true]
    refine ⟨⟨rfl, ?_⟩, rfl⟩
    rw [List.all_eq_true]
    intro c hc
    exact plain_of_isParamChar (isParamChar_of_mem_paramChars hc)

end Sgr
