import Sgr.Brush.Call
import Sgr.Proofs.Running
import Sgr.Proofs.Sigil.Grammar

/-!
# Styling calls of brushes

A call of a brush checks what stands behind its leading sigils and styles it, either under the modes
that the sigils name or, without sigils, under the brush's own. It makes no difference to the result
where the modes come from.

## Main statements

* `Brush.style_ofBrush`, `BrushParts.call_ofBrush` — the parts of a brush style as the brush does,
  and are called as it is.
* `Brush.call_preamble`, `BrushParts.call_own` — a call with leading sigils and one without.
-/

namespace Sgr

variable {b : Brush} {store : Store} {constFormat : Bool}

/-- Parts of a proper brush style as the brush does. -/
theorem Brush.style_ofBrush (b : Brush) (store : Store) (constFormat : Bool) (modes : Modes)
    (ts : List Value) (kw : List (String × Value)) :
    (BrushParts.ofBrush b).style store constFormat modes ts kw =
      b.style store constFormat modes ts kw := by
  have hresolve := BrushParts.resolve_ofBrush b (some modes.revert)
  simp only [BrushParts.style, Brush.style, hresolve, Request.render, Brush.resolve,
    Option.getD_some, InContext.mapError_bind]
  rcases Resolution.ofKinds? b.kinds modes.revert with e | r <;> rfl

namespace BrushParts

/-- Parts of a proper brush are called as the brush is. -/
theorem call_ofBrush (b : Brush) (store : Store) (constFormat : Bool) (ts : List Value)
    (kw : List (String × Value)) :
    (ofBrush b).call store constFormat ts kw = b.call store constFormat ts kw := by
  have modes : (ofBrush b).ownModes = .ok b.modes := rfl
  simp only [BrushParts.call, Brush.call, Brush.style_ofBrush, modes, InContext.ofExcept_ok,
    pure_bind]
  congr 1
  funext leading
  split <;> rfl

/-- Without leading sigils the own modes apply. -/
theorem call_own {p : BrushParts} {modes : Modes} (h : p.ownModes = .ok modes) (store : Store)
    (constFormat : Bool) {ts : List Value} (hts : ∀ v ∈ ts.head?, v.isLeadingSigil = false)
    (kw : List (String × Value)) :
    p.call store constFormat ts kw = (do
      InContext.ofExcept .sigil (Leading.checkContent false ts)
      p.style store constFormat modes ts kw) := by
  rw [call, Leading.read_content hts]
  rcases Leading.checkContent false ts with e | _
  · rfl
  · simp only [Except.map, InContext.ofExcept_ok, pure_bind, if_true, h]

theorem ownModes_of_output {p : BrushParts} {output : OutputMode} (h : p.output = .output output) :
    p.ownModes = .ok ⟨output, p.ownRevert⟩ := by
  rw [ownModes, h]

end BrushParts

namespace Brush

/-- Only constant text asks whether it may be made. -/
theorem style_of_ne_constFormat {modes : Modes} (h : modes.output ≠ .constFormat)
    (enabled other : Bool) (ts : List Value) (kw : List (String × Value)) :
    b.style store enabled modes ts kw = b.style store other modes ts kw := by
  simp [Brush.style, h]

/-- Behind a preamble the modes that it names apply. -/
theorem call_preamble (preamble : Preamble) (hne : preamble.tokens ≠ [])
    (hc : ¬Leading.IsDisabled constFormat preamble.tokens) {ts : List Value}
    (hts : ∀ v ∈ ts.head?, v.isLeadingSigil = false) (kw : List (String × Value)) :
    b.call store constFormat (preamble.tokens ++ ts) kw = (do
      InContext.ofExcept .sigil (Leading.checkContent false ts)
      b.style store constFormat preamble.modes ts kw) := by
  have hdisabled : ¬Leading.IsDisabled constFormat (preamble.tokens ++ ts) := by
    rwa [Leading.isDisabled_append hts]
  have hlength : ts.length ≠ (preamble.tokens ++ ts).length := by
    have := List.length_pos_iff.mpr hne
    rw [List.length_append]
    omega
  rw [Brush.call, Leading.read_append preamble hdisabled hts]
  rcases Leading.checkContent false ts with e | _
  · rfl
  · simp only [Except.map, InContext.ofExcept_ok, pure_bind, Leading.ofPreamble, if_neg hlength]
    rfl

/-- Without leading sigils the own modes apply. -/
theorem call_own {ts : List Value} (hts : ∀ v ∈ ts.head?, v.isLeadingSigil = false)
    (kw : List (String × Value)) :
    b.call store constFormat ts kw = (do
      InContext.ofExcept .sigil (Leading.checkContent false ts)
      b.style store constFormat b.modes ts kw) := by
  have hmodes : (BrushParts.ofBrush b).ownModes = .ok b.modes := rfl
  rw [← BrushParts.call_ofBrush, BrushParts.call_own hmodes store constFormat hts, style_ofBrush]

/-- A brush without modes of its own styles content under the modes that the preamble names. -/
theorem call_of_no_modes (hb : b.modes = {}) (preamble : Preamble)
    (hc : ¬Leading.IsDisabled constFormat preamble.tokens) {ts : List Value}
    (hts : ∀ v ∈ ts, v.isLeadingSigil = false) (kw : List (String × Value)) :
    b.call store constFormat (preamble.tokens ++ ts) kw =
      b.style store constFormat preamble.modes ts kw := by
  rw [Brush.call, Leading.read_preamble preamble hc hts]
  by_cases hne : preamble.tokens = []
  · simp [Leading.ofPreamble, hne, hb, Preamble.modes_of_tokens_eq_nil hne]
  · have hlength : ts.length ≠ (preamble.tokens ++ ts).length := by
      simpa using hne
    simp only [Leading.ofPreamble, InContext.ofExcept_ok, pure_bind, if_neg hlength]
    rfl

end Brush

end Sgr
