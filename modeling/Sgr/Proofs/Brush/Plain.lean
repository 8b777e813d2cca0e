import Sgr.Proofs.Brush.Texts
import Sgr.Proofs.Content.Literal

/-!
# Calls with plain texts

Where the first text of a call has no braces, it makes no difference that it is a template in some
output modes: a template without fields shows itself. So a call with a preamble and such texts shows
them between the sequences in every output mode but that of constant text, all of them in literal
output and the first one as a template.

## Main definitions

* `contentChars` — the texts of such a call as they are shown.

## Main statements

* `Brush.style_plain` — the result of styling such texts.
* `run_shownCall_plain`, `run_shownCall_unread` — a call with such texts, and one whose sigils
  cannot be read.
-/

namespace Sgr

/-- A text may be a part of literal content, and is written as it is. -/
theorem Value.isLiteral_of_text? {v : Value} {t : String} (h : v.text? = some t) :
    v.isLiteral ∧ v.str = t := by
  cases v with
  | text | sigil => exact ⟨rfl, Option.some.inj h⟩
  | _ => cases h

/-- The content of a call as it is shown where its first text is plain: all of it, or that text
where it is a template. -/
def contentChars (output : OutputMode) (vs : List Value) : List Char :=
  joinedText (if output.needsTemplate then vs.take 1 else vs)

theorem contentChars_text (output : OutputMode) (t : String) :
    contentChars output [.text t] = t.toList := by
  have hjoined : joinedText [.text t] = t.toList := List.flatMap_singleton _ _
  cases output <;> exact hjoined

/-! ## Styling -/

/-- The sequences around plain text are plain. -/
theorem Resolution.plain_within (r : Resolution) {cs : List Char} (h : cs.all Script.isPlain) :
    (r.opening ++ cs ++ r.closing).all Script.isPlain := by
  rw [List.all_append, List.all_append, h, opening, closing, plain_sgr, plain_sgr]
  rfl

/-- A template shows its first text alone. -/
theorem contentChars_of_needsTemplate {output : OutputMode} (h : output.needsTemplate) (v : Value)
    (vs : List Value) : contentChars output (v :: vs) = v.str.toList := by
  rw [contentChars, if_pos h]
  exact List.flatMap_singleton _ _

/-- Styling is a request for the content, which constant text is not at issue for. -/
theorem Brush.style_of_tokens {b : Brush} {modes : Modes} (houtput : modes.output ≠ .constFormat)
    {ts : List Value} {kw : List (String × Value)} {c : Content}
    (hc : Content.ofTokens modes.output ts kw = .ok c) (store : Store) (constFormat : Bool) :
    b.style store constFormat modes ts kw =
      (Request.render store ⟨b.kinds, modes, c⟩).mapError RequestError.failure := by
  have hallowed : (modes.output = .constFormat && !constFormat) = false := by simp [houtput]
  simp only [style, hallowed, Bool.false_eq_true, if_false, hc, InContext.ofExcept_ok, pure_bind]

/-- Texts of which the first is plain are styled between the sequences, in every output mode but
that of constant text. A deferred result is still a template, but a plain one. -/
theorem Brush.style_plain {b : Brush} {k : Kind} {ks : List Kind} (hkinds : b.kinds = k :: ks)
    {modes : Modes} (houtput : modes.output ≠ .constFormat) {v : Value} {vs : List Value}
    (htexts : AllTexts (v :: vs)) (hplain : v.str.toList.all Script.isPlain) (store : Store)
    (constFormat : Bool) :
    let r := Resolution.ofKinds b.kinds modes.revert
    let text := String.ofList (r.opening ++ contentChars modes.output (v :: vs) ++ r.closing)
    b.style store constFormat modes (v :: vs) [] =
      pure (if modes.output = .format then .deferred text ⟨vs, []⟩ else .text text) := by
  intro r text
  obtain ⟨output, revert⟩ := modes
  have hr : Resolution.ofKinds? b.kinds revert = .ok r :=
    Resolution.ofKinds?_of_ne_nil (by simp [hkinds]) revert
  obtain ⟨t, ht⟩ := Option.isSome_iff_exists.mp (htexts v List.mem_cons_self)
  obtain ⟨-, hstr⟩ := Value.isLiteral_of_text? ht
  have htokens (mode : OutputMode) (hneeds : mode.needsTemplate) :
      Content.ofTokens mode (v :: vs) [] = .ok (.template v ⟨vs, []⟩) :=
    (if_pos hneeds).trans (if_pos (htexts v List.mem_cons_self))
  have hwithin (mode : OutputMode) (hneeds : mode.needsTemplate) :
      String.ofList (r.opening ++ contentChars mode (v :: vs) ++ r.closing) =
        String.ofList r.opening ++ t ++ String.ofList r.closing := by
    rw [contentChars_of_needsTemplate hneeds, hstr, String.ofList_append, String.ofList_append,
      String.ofList_toList]
  cases output with
  | literal =>
    have hliteral : ∀ u ∈ v :: vs, u.isLiteral := by
      intro u hu
      obtain ⟨s, hs⟩ := Option.isSome_iff_exists.mp (htexts u hu)
      exact (Value.isLiteral_of_text? hs).1
    rw [Brush.style_of_tokens houtput (c := .literal (v :: vs)) rfl, hkinds, render_literal,
      store.viewAll_texts htexts, literalText_of_isLiteral hliteral, InContext.ofExcept_ok,
      pure_bind, ← hkinds, ← String.ofList_append, ← String.ofList_append]
    rfl
  | format =>
    rw [Brush.style_of_tokens houtput (htokens .format rfl), render_format ht hr,
      ← hwithin .format rfl]
    rfl
  | string =>
    have hfirst : (contentChars .string (v :: vs)).all Script.isPlain := by
      rwa [contentChars_of_needsTemplate rfl]
    rw [Brush.style_of_tokens houtput (htokens .string rfl), render_string ht hr,
      ← hwithin .string rfl, renderTemplate_plain (r.plain_within hfirst)]
    rfl
  | constFormat => exact absurd rfl houtput

/-! ## Calls -/

section Shown

variable {w : World} {m : Value} {b : Brush} {k : Kind} {ks : List Kind} {s : Settings}

/-- Plain text is shown as it is from a cell, too. -/
theorem run_shown_deferred {cs : List Char} (h : cs.all Script.isPlain) (args : Arguments)
    (w : World) :
    ((do renderValue (← styledValue (.deferred (String.ofList cs) args)) :
      Action String).run.run w).1 = .ok (String.ofList cs) := by
  let styled := Styled.deferred (String.ofList cs) args
  have hcell : (styledValue styled).run.run w =
      (.ok (.cell w.store.cells.length), { w with store := (w.store.add styled.value).2 }) := rfl
  rw [run_bind_ok hcell, renderValue_deferred (Store.get?_add_self _ _), renderTemplate_plain h,
    Action.run_inContext]
  rfl

/-- What a call with a preamble in front of texts shows, if the first of the texts is plain. -/
theorem run_shownCall_plain (hm : w.store.contents m = .brush b) (hs : w.settings = some s)
    (hkinds : b.kinds = k :: ks) (hmodes : b.modes = {}) {p : Preamble}
    (hc : ¬Leading.IsDisabled s.constFormat p.tokens) (houtput : p.modes.output ≠ .constFormat)
    {v : Value} {vs : List Value} (htexts : AllTexts (v :: vs))
    (hcontent : ∀ u ∈ v :: vs, u.isLeadingSigil = false)
    (hplain : v.str.toList.all Script.isPlain) :
    let r := Resolution.ofKinds b.kinds p.modes.revert
    ((shownCall m (p.tokens ++ v :: vs)).run.run w).1 =
      .ok (String.ofList (r.opening ++ contentChars p.modes.output (v :: vs) ++ r.closing)) := by
  intro r
  let text := String.ofList (r.opening ++ contentChars p.modes.output (v :: vs) ++ r.closing)
  have hcall := (b.call_of_no_modes hmodes p hc hcontent []).trans
    (b.style_plain hkinds houtput htexts hplain w.store s.constFormat)
  rw [shownCall, run_bind, run_callValue hm hs _ (by simp), hcall, ← run_bind]
  by_cases hformat : p.modes.output = .format
  · have hfirst : (contentChars p.modes.output (v :: vs)).all Script.isPlain := by
      rwa [contentChars_of_needsTemplate (by rw [hformat]; rfl)]
    simp only [if_pos hformat]
    exact run_shown_deferred (r.plain_within hfirst) ⟨vs, []⟩ w
  · simp only [if_neg hformat]
    exact congrArg Prod.fst (renderValue_text text w)

/-- Sigils that cannot be read fail the call. -/
theorem run_shownCall_unread (hm : w.store.contents m = .brush b) (hs : w.settings = some s)
    {ts : List Value} {e : SigilError} (hread : Leading.read s.constFormat ts = .error e) :
    ((shownCall m ts).run.run w).1 = .error (.sigil e) := by
  have hcall : b.call w.store s.constFormat ts [] = throw (.sigil e) := by
    rw [Brush.call, hread, InContext.ofExcept_error]
    rfl
  rw [shownCall, run_bind, run_callValue hm hs _ (by simp), hcall]
  rfl

end Shown

end Sgr
