import Sgr.Brush.Call
import Sgr.Proofs.Terminal.Replay

/-!
# Kinds from their opening sequence

The sequence in front of a span is the parameters of its kinds, one behind the other, without a mark
between two kinds. A colour takes parameters that may look like the codes of styles or like the
selector of a plane, but whoever reads from the left knows how many it takes. So the kinds can be
read back from the sequence, with their order and their repetitions, and different kinds have
different sequences.

## Main definitions

* `readKinds?` — the kinds whose opening sequence a text is.

## Main statements

* `readKinds?_sgr` — the opening sequence of kinds is read as those kinds.
* `opening_determines_kinds` — the same of values that are resolved, and that no other kinds have
  their sequence.
-/

namespace Sgr

/-- The kind that an instruction applies. -/
def Instruction.kind? : Instruction → Option Kind
  | apply k => some k
  | revert _ | reset => none

/-- What stands between the introducer and the final `m` of a sequence. -/
def sequenceBody? : List Char → Option (List Char)
  | '\x1b' :: '[' :: cs => if cs.getLast? = some 'm' then some cs.dropLast else none
  | _ => none

/-- The kinds whose opening sequence a text is: every instruction of its parameters has to apply
one. -/
def readKinds? (s : String) : Option (List Kind) := do
  let params ← readParams? (← sequenceBody? s.toList)
  (← Instruction.readAll? params).mapM Instruction.kind?

theorem sequenceBody?_sgr {params : List Nat} (h : params ≠ []) :
    sequenceBody? (sgr params) = some (paramChars params) := by
  rw [sgr_of_ne_nil h]
  simp [introducer, sequenceBody?]

theorem mapM_kind?_apply (kinds : List Kind) :
    (kinds.map Instruction.apply).mapM Instruction.kind? = some kinds := by
  induction kinds with
  | nil => rfl
  | cons k kinds ih => simp [List.mapM_cons, Instruction.kind?, ih]

/-- The parameters of kinds in a sequence are read as those kinds. -/
theorem readKinds?_sgr {kinds : List Kind} (h : kinds ≠ []) :
    readKinds? (String.ofList (sgr (kinds.flatMap Kind.params))) = some kinds := by
  have hparams : kinds.flatMap Kind.params ≠ [] := by
    obtain ⟨k, ks, rfl⟩ := List.exists_cons_of_ne_nil h
    simp [k.params_ne_nil]
  simp only [readKinds?, String.toList_ofList, sequenceBody?_sgr hparams, Option.bind_eq_bind,
    Option.bind_some, readParams?_paramChars hparams, Instruction.readAll?_set, mapM_kind?_apply]

theorem ofValues_eq_ok {kinds : List Kind} {revert : RevertMode} {r : Resolution}
    (h : Resolution.ofValues (kinds.map Kind.value) revert = .ok r) :
    kinds ≠ [] ∧ r.set = kinds.flatMap Kind.params := by
  rw [BrushParts.ofValues_value, Resolution.ofKinds?] at h
  split at h
  · cases h
  · next hne =>
    cases h
    exact ⟨by simpa using hne, rfl⟩

/-- Kinds resolve, under every revert mode, to a resolution whose opening text is read as exactly
those kinds. Kinds with the same opening text are therefore the same, under whatever modes they are
resolved. -/
theorem opening_determines_kinds (k : Kind) (ks : List Kind) (revert : RevertMode) :
    ∃ r, Resolution.ofValues ((k :: ks).map Kind.value) revert = .ok r ∧
      readKinds? (String.ofList (sgr r.set)) = some (k :: ks) ∧
      ∀ others mode r', Resolution.ofValues (others.map Kind.value) mode = .ok r' →
        String.ofList (sgr r'.set) = String.ofList (sgr r.set) → others = k :: ks := by
  have hread := readKinds?_sgr (List.cons_ne_nil k ks)
  refine ⟨Resolution.ofKinds (k :: ks) revert, ?_, hread, ?_⟩
  · rw [BrushParts.ofValues_value]
    rfl
  · intro others mode r' hr' htext
    obtain ⟨hne, hset⟩ := ofValues_eq_ok hr'
    have hother : readKinds? (String.ofList (sgr r'.set)) = some others := by
      rw [hset, readKinds?_sgr hne]
    rw [htext] at hother
    exact Option.some.inj (hother.symm.trans hread)

/-- Index 5 is no blinking, and the components of a colour are no selector. -/
example : readKinds? "\x1b[38;5;5;5;48;2;38;5;2m" =
    some [.color (.indexed 5 .foreground), .style .blink, .color (.rgb 38 5 2 .background)] := by
  cbv

end Sgr
