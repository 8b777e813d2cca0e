import Sgr.CommandLine.Console
import Sgr.Proofs.Sequence

/-!
# Removing control sequences

What is removed from a text are its control sequences, among them every sequence of parameters that
the program itself makes. A line break is in none of them, so a line is written as its text is, with
a line break behind it.

## Main statements

* `stripControlChars_sgr` — a sequence of parameters is removed.
* `stripControl_newline` — the line break behind a text stays.
-/

namespace Sgr.CommandLine

/-! ## What is removed -/

theorem stripControlChars_control {cs r : List Char} (h : afterControl? cs = some r) :
    stripControlChars ('\x1b' :: '[' :: cs) = stripControlChars r := by
  rw [stripControlChars]
  split
  · next h' =>
    rw [h] at h'
    cases h'
    rfl
  · next h' =>
    rw [h] at h'
    cases h'

theorem isControlParameter_of_isParamChar {c : Char} (h : isParamChar c) :
    isControlParameter c := by
  simp only [isParamChar, isControlParameter, Char.isDigit, Bool.or_eq_true, Bool.and_eq_true,
    decide_eq_true_eq, Char.le_def] at h ⊢
  obtain ⟨hlow, hhigh⟩ | rfl := h
  · have hnine : ('9' : Char).val ≤ ('?' : Char).val := by decide
    exact ⟨hlow, UInt32.le_trans hhigh hnine⟩
  · decide

/-- A sequence of parameters is a control sequence. -/
theorem afterControl?_params {params : List Nat} (cs : List Char) :
    afterControl? (paramChars params ++ 'm' :: cs) = some cs := by
  have hparams : (paramChars params ++ 'm' :: cs).dropWhile isControlParameter = 'm' :: cs := by
    rw [List.dropWhile_append_of_pos fun c hc =>
      isControlParameter_of_isParamChar (isParamChar_of_mem_paramChars hc)]
    exact List.dropWhile_cons_of_neg (by decide)
  have hbetween : ('m' :: cs).dropWhile isIntermediate = 'm' :: cs :=
    List.dropWhile_cons_of_neg (by decide)
  rw [afterControl?, hparams, hbetween]
  exact if_pos (by decide)

theorem stripControlChars_sgr (params : List Nat) (cs : List Char) :
    stripControlChars (sgr params ++ cs) = stripControlChars cs := by
  by_cases h : params = []
  · subst h
    rfl
  · rw [sgr_of_ne_nil h, List.append_assoc, List.append_assoc]
    exact stripControlChars_control (afterControl?_params cs)

/-! ## What stays -/

theorem stripControlChars_cons {c : Char} (h : c ≠ '\x1b') (cs : List Char) :
    stripControlChars (c :: cs) = c :: stripControlChars cs := by
  rw [stripControlChars]
  intro _ hc
  exact absurd hc h

theorem stripControlChars_plain {front : List Char} (h : ∀ c ∈ front, c ≠ '\x1b')
    (cs : List Char) : stripControlChars (front ++ cs) = front ++ stripControlChars cs := by
  induction front with
  | nil => rfl
  | cons c front ih =>
    obtain ⟨hc, hfront⟩ := List.forall_mem_cons.mp h
    rw [List.cons_append, stripControlChars_cons hc, ih hfront, List.cons_append]

theorem dropWhile_newline {p : Char → Bool} (hp : p '\n' = false) (cs : List Char) :
    (cs ++ ['\n']).dropWhile p = cs.dropWhile p ++ ['\n'] := by
  rw [List.dropWhile_append, List.dropWhile_cons_of_neg (by simp [hp])]
  cases cs.dropWhile p <;> rfl

/-- A line break is in no control sequence. -/
theorem afterControl?_newline (cs : List Char) :
    afterControl? (cs ++ ['\n']) = (afterControl? cs).map (· ++ ['\n']) := by
  rw [afterControl?, afterControl?, dropWhile_newline (by decide), dropWhile_newline (by decide)]
  rcases (cs.dropWhile isControlParameter).dropWhile isIntermediate with _ | ⟨c, r⟩
  · rfl
  · by_cases hc : isFinal c
    · simp [hc]
    · simp [hc]

theorem stripControlChars_newline (cs : List Char) :
    stripControlChars (cs ++ ['\n']) = stripControlChars cs ++ ['\n'] := by
  fun_induction stripControlChars cs with
  | case1 cs r h _ ih =>
    have hafter : afterControl? (cs ++ ['\n']) = some (r ++ ['\n']) := by
      rw [afterControl?_newline, h, Option.map_some]
    rw [List.cons_append, List.cons_append, stripControlChars_control hafter, ih]
  | case2 cs h ih =>
    have hafter : afterControl? (cs ++ ['\n']) = none := by
      rw [afterControl?_newline, h, Option.map_none]
    rw [List.cons_append, List.cons_append, stripControlChars]
    split
    · next h' =>
      rw [hafter] at h'
      cases h'
    · rw [ih]
      rfl
  | case3 c cs h ih =>
    rw [List.cons_append, stripControlChars, ih]
    · rfl
    · intro r hc hcs
      rcases cs with _ | ⟨d, ds⟩
      · cases hcs
      · exact h ds hc (by rw [List.cons_append, List.cons.injEq] at hcs; rw [hcs.1])
  | case4 => simp [stripControlChars]

/-- The line break behind a text stays. -/
theorem stripControl_newline (s : String) : stripControl (s ++ "\n") = stripControl s ++ "\n" := by
  rw [stripControl, stripControl, String.toList_append]
  exact (congrArg String.ofList (stripControlChars_newline s.toList)).trans String.ofList_append

end Sgr.CommandLine
