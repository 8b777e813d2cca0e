import Sgr.Proofs.Sequence
import Sgr.Proofs.Terminal.Instruction

/-!
# Text on a terminal

A terminal takes a text character by character. Outside of a sequence a character is shown under the
attributes of the moment; a sequence is collected up to its final `m`, and then its instructions
run. Whatever is no sequence of understood parameters stops the terminal, so a text that a terminal
takes to its end has no other sequences.

## Main definitions

* `Terminal`, `Terminal.feed` — a terminal, and what it does with a character.
* `Terminal.replay` — what it does with characters.

## Main statements

* `Terminal.replay_text` — text without an escape character is shown as it is.
* `Terminal.replay_sgr` — a sequence runs its instructions and shows nothing.
-/

namespace Sgr

/-- Characters with the attributes they are shown under. -/
abbrev Shown := List (Char × Attributes)

/-- Where a terminal is in its input: in text, behind an escape character, or in a sequence that has
some characters already. -/
inductive Phase where
  | text
  | escape
  | sequence (cs : List Char)
  deriving DecidableEq, Repr, Inhabited

/-- A terminal: where it is, what is on, and what it has shown. -/
structure Terminal where
  phase : Phase := .text
  attributes : Attributes
  shown : Shown := []

/-- The parameter of decimal digits. -/
def readParam? (cs : List Char) : Option Nat :=
  if cs ≠ [] ∧ cs.all Char.isDigit then some (Nat.ofDigitChars 10 cs 0) else none

/-- The parameters between the introducer and the final `m`. -/
def readParams? (cs : List Char) : Option (List Nat) :=
  (cs.splitOn ';').mapM readParam?

namespace Terminal

/-- What a terminal does with a character. -/
def feed (t : Terminal) (c : Char) : Option Terminal :=
  match t.phase with
  | .text =>
    if c = '\x1b' then some { t with phase := .escape }
    else some { t with shown := t.shown ++ [(c, t.attributes)] }
  | .escape => if c = '[' then some { t with phase := .sequence [] } else none
  | .sequence cs =>
    if isParamChar c then some { t with phase := .sequence (cs ++ [c]) }
    else if c = 'm' then do
      let ds ← Instruction.readAll? (← readParams? cs)
      return { t with phase := .text, attributes := ds.foldl Instruction.run t.attributes }
    else none

/-- What a terminal does with characters. -/
def replay (t : Terminal) (cs : List Char) : Option Terminal :=
  cs.foldlM feed t

end Terminal

/-! ## Parameters as text -/

theorem readParam?_digits (n : Nat) : readParam? (Number.digits 10 n) = some n := by
  have hne : Number.digits 10 n ≠ [] := Nat.toDigits_ne_nil
  have hall : (Number.digits 10 n).all Char.isDigit := by
    rw [List.all_eq_true]
    intro c hc
    exact Nat.isDigit_of_mem_toDigits (by decide) (by decide) hc
  simp only [readParam?, hne, hall, ne_eq, not_false_eq_true, and_self, if_true]
  rw [Number.digits, Nat.ofDigitChars_ten_toDigits]

theorem readParams?_paramChars {params : List Nat} (h : params ≠ []) :
    readParams? (paramChars params) = some params := by
  have hsplit : (paramChars params).splitOn ';' = params.map (Number.digits 10) := by
    apply List.splitOn_intercalate
    · intro ds hds
      obtain ⟨n, -, rfl⟩ := List.mem_map.mp hds
      intro hc
      have hd : Char.isDigit ';' := Nat.isDigit_of_mem_toDigits (by decide) (by decide) hc
      exact absurd hd (by decide)
    · simpa using h
  have hread : readParam? ∘ Number.digits 10 = fun n => pure n := funext readParam?_digits
  rw [readParams?, hsplit, List.mapM_map, hread, List.mapM_pure, List.map_id']
  rfl

/-! ## Replaying -/

namespace Terminal

theorem replay_nil (t : Terminal) : t.replay [] = some t := rfl

theorem replay_cons (t : Terminal) (c : Char) (cs : List Char) :
    t.replay (c :: cs) = (t.feed c).bind (·.replay cs) := rfl

theorem replay_append (t : Terminal) (cs ds : List Char) :
    t.replay (cs ++ ds) = (t.replay cs).bind (·.replay ds) :=
  List.foldlM_append

/-- Text without an escape character is shown as it is. -/
theorem replay_text {cs : List Char} (h : '\x1b' ∉ cs) (a : Attributes) (shown : Shown) :
    replay ⟨.text, a, shown⟩ cs = some ⟨.text, a, shown ++ cs.map (·, a)⟩ := by
  induction cs generalizing shown with
  | nil => rw [replay_nil, List.map_nil, List.append_nil]
  | cons c cs ih =>
    obtain ⟨hc, hcs⟩ := not_or.mp (mt List.mem_cons.mpr h)
    have hfeed : feed ⟨.text, a, shown⟩ c = some ⟨.text, a, shown ++ [(c, a)]⟩ :=
      if_neg (Ne.symm hc)
    rw [replay_cons, hfeed, Option.bind_some, ih hcs, List.map_cons, List.append_assoc]
    rfl

/-- The characters of parameters are collected. -/
theorem replay_collect {cs : List Char} (h : ∀ c ∈ cs, isParamChar c) (read : List Char)
    (a : Attributes) (shown : Shown) :
    replay ⟨.sequence read, a, shown⟩ cs = some ⟨.sequence (read ++ cs), a, shown⟩ := by
  induction cs generalizing read with
  | nil => rw [replay_nil, List.append_nil]
  | cons c cs ih =>
    obtain ⟨hc, hcs⟩ := List.forall_mem_cons.mp h
    have hfeed : feed ⟨.sequence read, a, shown⟩ c = some ⟨.sequence (read ++ [c]), a, shown⟩ :=
      if_pos hc
    rw [replay_cons, hfeed, Option.bind_some, ih hcs, List.append_assoc]
    rfl

/-- The final character of a sequence runs the instructions of its parameters. -/
theorem feed_final {params : List Nat} {ds : List Instruction} (hne : params ≠ [])
    (h : Instruction.readAll? params = some ds) (a : Attributes) (shown : Shown) :
    feed ⟨.sequence (paramChars params), a, shown⟩ 'm' =
      some ⟨.text, ds.foldl Instruction.run a, shown⟩ := by
  have hm : isParamChar 'm' = false := rfl
  simp [feed, hm, readParams?_paramChars hne, h]

/-- A sequence runs its instructions and shows nothing. -/
theorem replay_sgr {params : List Nat} {ds : List Instruction}
    (h : Instruction.readAll? params = some ds) (a : Attributes) (shown : Shown) :
    replay ⟨.text, a, shown⟩ (sgr params) = some ⟨.text, ds.foldl Instruction.run a, shown⟩ := by
  by_cases hne : params = []
  · subst hne
    rw [Instruction.readAll?_nil, Option.some.injEq] at h
    subst h
    rfl
  · have hintro : replay ⟨.text, a, shown⟩ introducer = some ⟨.sequence [], a, shown⟩ := rfl
    have hchars : ∀ c ∈ paramChars params, isParamChar c :=
      fun c hc => isParamChar_of_mem_paramChars hc
    have hcollect := replay_collect hchars [] a shown
    rw [sgr_of_ne_nil hne, replay_append, replay_append, hintro, Option.bind_some, hcollect,
      Option.bind_some, List.nil_append, replay_cons, feed_final hne h, Option.bind_some,
      replay_nil]

end Terminal

end Sgr
