import Sgr.Brush.Call
import Sgr.Proofs.Terminal.Nesting

/-!
# Text without its sequences

The sequences of a text are removed from left to right, and what stays is not looked at again, so
the pieces of a text cannot in general be stripped one by one: a piece may end inside of a sequence
that the next piece completes. The escape character is the exception. It starts a sequence and is
never inside of one, so where a piece starts with it, nothing that was begun in front of it can be
completed behind it. The sequence behind a span starts with an escape character, and the one in
front of it is complete, so both disappear and leave the content as it is without them.

## Main definitions

* `StripsTo` — what is left of characters, whatever stands behind them.

## Main statements

* `stripSgrChars_append` — in front of an escape character a text can be cut.
* `stripSgr_between` — the sequences around content make no difference.
* `Nested.stripsTo_written` — the text of nested calls strips to the texts they are around.
* `strip_undoes_wrap` — both, for the resolution of kinds.
-/

namespace Sgr

/-! ## Sequences -/

theorem stripSgrChars_nil : stripSgrChars [] = [] := by
  rw [stripSgrChars]

theorem stripSgrChars_sequence {cs r : List Char} (h : afterParams? cs = some r) :
    stripSgrChars ('\x1b' :: '[' :: cs) = stripSgrChars r := by
  rw [stripSgrChars]
  split
  · next h' =>
    rw [h] at h'
    cases h'
    rfl
  · next h' =>
    rw [h] at h'
    cases h'

theorem stripSgrChars_broken {cs : List Char} (h : afterParams? cs = none) :
    stripSgrChars ('\x1b' :: '[' :: cs) = '\x1b' :: '[' :: stripSgrChars cs := by
  rw [stripSgrChars]
  split
  · next h' =>
    rw [h] at h'
    cases h'
  · rfl

/-- The characters of parameters and the final `m` are a whole sequence. -/
theorem afterParams?_paramChars (params : List Nat) (cs : List Char) :
    afterParams? (paramChars params ++ 'm' :: cs) = some cs := by
  have hdrop : (paramChars params ++ 'm' :: cs).dropWhile isParamChar = 'm' :: cs := by
    rw [List.dropWhile_append_of_pos fun c hc => isParamChar_of_mem_paramChars hc]
    exact List.dropWhile_cons_of_neg (by decide)
  rw [afterParams?, hdrop]
  rfl

theorem head?_sgr {params : List Nat} : ∀ c ∈ (sgr params).head?, c = '\x1b' := by
  by_cases h : params = []
  · subst h
    simp [sgr, sequenceOf]
  · simp [sgr_of_ne_nil h, introducer]

/-! ## Cutting in front of an escape character -/

section Cut

variable {ds : List Char} (hds : ∀ c ∈ ds.head?, c = '\x1b')

include hds

/-- A sequence does not reach beyond an escape character. -/
theorem afterParams?_append (cs : List Char) :
    afterParams? (cs ++ ds) = (afterParams? cs).map (· ++ ds) := by
  have hstop : ds.dropWhile isParamChar = ds := by
    rcases ds with _ | ⟨d, ds⟩
    · rfl
    · obtain rfl := hds d rfl
      exact List.dropWhile_cons_of_neg (by decide)
  rw [afterParams?, afterParams?, List.dropWhile_append, hstop]
  rcases cs.dropWhile isParamChar with _ | ⟨c, r⟩
  · rcases ds with _ | ⟨d, ds⟩
    · rfl
    · obtain rfl := hds d rfl
      rfl
  · by_cases hc : c = 'm'
    · simp [hc]
    · simp [hc]

/-- In front of an escape character a text can be cut. -/
theorem stripSgrChars_append (cs : List Char) :
    stripSgrChars (cs ++ ds) = stripSgrChars cs ++ stripSgrChars ds := by
  fun_induction stripSgrChars cs with
  | case1 cs r h _ ih =>
    have hafter : afterParams? (cs ++ ds) = some (r ++ ds) := by
      rw [afterParams?_append hds, h, Option.map_some]
    rw [List.cons_append, List.cons_append, stripSgrChars_sequence hafter, ih]
  | case2 cs h ih =>
    have hafter : afterParams? (cs ++ ds) = none := by
      rw [afterParams?_append hds, h, Option.map_none]
    rw [List.cons_append, List.cons_append, stripSgrChars_broken hafter, ih]
    rfl
  | case3 c cs hc ih =>
    rw [List.cons_append, stripSgrChars, ih]
    · rfl
    · -- an introducer is not cut in two, since its second character is no escape character
      rintro r rfl hr
      rcases cs with _ | ⟨d, cs⟩
      · rw [List.nil_append] at hr
        exact absurd (hds '[' (by rw [hr]; rfl)) (by decide)
      · exact hc cs rfl (by rw [List.cons_append, List.cons.injEq] at hr; rw [hr.1])
  | case4 => rfl

end Cut

/-! ## Around content -/

/-- Characters of which the same is left, whatever stands behind them. -/
def StripsTo (cs out : List Char) : Prop :=
  ∀ more, stripSgrChars (cs ++ more) = out ++ stripSgrChars more

theorem StripsTo.append {cs ds out out' : List Char} (h : StripsTo cs out)
    (h' : StripsTo ds out') : StripsTo (cs ++ ds) (out ++ out') := by
  intro more
  rw [List.append_assoc, h, h', List.append_assoc]

theorem StripsTo.stripSgrChars_eq {cs out : List Char} (h : StripsTo cs out) :
    stripSgrChars cs = out := by
  simpa [stripSgrChars_nil] using h []

/-- Nothing is left of a sequence. -/
theorem stripsTo_sgr (params : List Nat) : StripsTo (sgr params) [] := by
  intro more
  by_cases h : params = []
  · subst h
    rfl
  · rw [sgr_of_ne_nil h, List.append_assoc, List.append_assoc]
    exact stripSgrChars_sequence (afterParams?_paramChars params more)

/-- Text without an escape character stays. -/
theorem stripsTo_text {cs : List Char} (h : '\x1b' ∉ cs) : StripsTo cs cs := by
  intro more
  induction cs with
  | nil => rfl
  | cons c cs ih =>
    obtain ⟨hc, hcs⟩ := not_or.mp (mt List.mem_cons.mpr h)
    rw [List.cons_append, stripSgrChars, ih hcs, List.cons_append]
    rintro _ rfl
    exact absurd rfl hc

/-- The sequences around content make no difference. -/
theorem stripSgr_between (r : Resolution) (s : String) :
    stripSgr (String.ofList r.opening ++ s ++ String.ofList r.closing) = stripSgr s := by
  have hclosing : stripSgrChars r.closing = [] := (stripsTo_sgr r.reset).stripSgrChars_eq
  have hchars : stripSgrChars (r.opening ++ (s.toList ++ r.closing)) = stripSgrChars s.toList :=
    calc stripSgrChars (r.opening ++ (s.toList ++ r.closing))
        = stripSgrChars (s.toList ++ r.closing) := stripsTo_sgr r.set _
      _ = stripSgrChars s.toList ++ stripSgrChars r.closing := stripSgrChars_append head?_sgr _
      _ = stripSgrChars s.toList := by rw [hclosing, List.append_nil]
  rw [stripSgr, stripSgr, String.toList_append, String.toList_append, String.toList_ofList,
    String.toList_ofList, List.append_assoc, hchars]

/-! ## Nested calls -/

namespace Nested

mutual

/-- The text of nested calls strips to the texts they are around. -/
theorem stripsTo_written : ∀ t : Nested, StripsTo t.written t.chars
  | text s h => stripsTo_text h
  | call k ks revert parts => by
    let r := Resolution.ofKinds (k :: ks) revert
    have h := ((stripsTo_sgr r.set).append (stripsTo_allWritten parts)).append (stripsTo_sgr r.reset)
    rw [List.nil_append, List.append_nil] at h
    rw [written, chars]
    exact h

theorem stripsTo_allWritten : ∀ ts : List Nested, StripsTo (allWritten ts) (allChars ts)
  | [] => by
    rw [allWritten, allChars]
    exact fun _ => rfl
  | t :: ts => by
    rw [allWritten, allChars]
    exact (stripsTo_written t).append (stripsTo_allWritten ts)

end

end Nested

/-- Kinds resolve under every revert mode, and a text between the sequences of the resolution strips
to what it strips to by itself, whatever sequences and pieces of sequences it holds. Nested calls
around texts without escape characters give a text that strips to these texts, in order. -/
theorem strip_undoes_wrap (k : Kind) (ks : List Kind) (revert : RevertMode) :
    (∃ r, Resolution.ofValues ((k :: ks).map Kind.value) revert = .ok r ∧
      ∀ s : String,
        stripSgr (String.ofList (sgr r.set) ++ s ++ String.ofList (sgr r.reset)) = stripSgr s) ∧
    ∀ (store : Store) (t : Nested),
      ∃ s, t.render store = pure (.text s) ∧ stripSgr s = String.ofList t.chars := by
  constructor
  · refine ⟨Resolution.ofKinds (k :: ks) revert, ?_, stripSgr_between _⟩
    rw [BrushParts.ofValues_value]
    rfl
  · intro store t
    refine ⟨_, t.render_eq store, ?_⟩
    rw [stripSgr, String.toList_ofList, t.stripsTo_written.stripSgrChars_eq]

/-- A sequence that the content leaves open is not completed by the one behind it. -/
example : stripSgr "\x1b[1ma\x1b[3\x1b[22m" = "a\x1b[3" := by
  cbv

end Sgr
