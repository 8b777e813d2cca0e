import Sgr.Sigil.Grammar

/-!
# The grammar of the sigils in front of a call

The preamble of a call is what the grammar allows in front of the content: an output sigil, a revert
sigil, and a separator if one of these is there. Reading a call takes the longest preamble off its
tokens. The rest is the content if no sigil of a preamble is left in it, and otherwise the first of
these is reported.

## Main definitions

* `Value.isLeadingSigil` — whether a token is an output sigil, a revert sigil or a separator.
* `Preamble`, `Preamble.tokens` — the preamble of a call, and its tokens.
* `Preamble.IsLongest` — the preamble is the longest one that tokens start with.

## Main statements

* `Leading.read_eq_ok` — which calls are accepted, and as what.
* `Leading.read_eq_error` — which calls are refused, and for which sigil.
* `Leading.read_grammar` — both together.
-/

namespace Sgr

namespace Sigil

/-- Whether a sigil picks an output mode. -/
def isOutput (s : Sigil) : Bool :=
  s.output?.isSome

/-- Whether a sigil picks a revert mode. -/
def isRevert (s : Sigil) : Bool :=
  s.revert?.isSome

/-- Whether a sigil is the separator. -/
def isSeparator (s : Sigil) : Bool :=
  s = .separator

theorem isLeading_eq (s : Sigil) : s.isLeading = (s.isOutput || s.isRevert || s.isSeparator) := by
  cases s <;> rfl

theorem isOutput_of_isRevert {s : Sigil} (h : s.isRevert) : s.isOutput = false := by
  cases s <;> simp_all [isRevert, isOutput, revert?, output?]

theorem others_of_isSeparator {s : Sigil} (h : s.isSeparator) :
    s.isOutput = false ∧ s.isRevert = false := by
  obtain rfl : s = .separator := by simpa [isSeparator] using h
  exact ⟨rfl, rfl⟩

end Sigil

/-- Whether a token is an output sigil, a revert sigil or a separator. -/
def Value.isLeadingSigil : Value → Bool
  | .sigil s => s.isLeading
  | _ => false

/-- The sigils that the grammar allows in front of the content. -/
structure Preamble where
  output : Option Sigil
  revert : Option Sigil
  separator : Option Sigil
  isOutput : ∀ s ∈ output, s.isOutput
  isRevert : ∀ s ∈ revert, s.isRevert
  isSeparator : ∀ s ∈ separator, s.isSeparator
  separates : separator.isSome → output.isSome ∨ revert.isSome

namespace Preamble

/-- The sigils of a preamble. -/
def sigils (p : Preamble) : List Sigil :=
  p.output.toList ++ p.revert.toList ++ p.separator.toList

/-- The tokens of a preamble. -/
def tokens (p : Preamble) : List Value :=
  p.sigils.map .sigil

/-- The output mode that a preamble names. -/
def outputMode? (p : Preamble) : Option OutputMode :=
  p.output.bind Sigil.output?

/-- The revert mode that a preamble names. -/
def revertMode? (p : Preamble) : Option RevertMode :=
  p.revert.bind Sigil.revert?

/-- The modes that a preamble names, or literal output and reverting the kinds' own groups. -/
def modes (p : Preamble) : Modes :=
  ⟨p.outputMode?.getD .literal, p.revertMode?.getD .single⟩

/-- A preamble without sigils names no modes. -/
theorem modes_of_tokens_eq_nil {p : Preamble} (h : p.tokens = []) : p.modes = {} := by
  have hsigils : p.sigils = [] := List.map_eq_nil_iff.mp h
  simp only [sigils, List.append_eq_nil_iff, Option.toList_eq_nil_iff] at hsigils
  rw [modes, outputMode?, revertMode?, hsigils.1.1, hsigils.1.2]
  rfl

theorem isLeading_of_mem (p : Preamble) {s : Sigil} (hs : s ∈ p.sigils) : s.isLeading := by
  rw [Sigil.isLeading_eq]
  simp only [sigils, List.mem_append, Option.mem_toList] at hs
  rcases hs with (hs | hs) | hs
  · simp [p.isOutput s hs]
  · simp [p.isRevert s hs]
  · simp [p.isSeparator s hs]

/-- The preamble is the longest one that tokens start with. -/
def IsLongest (p : Preamble) (tokens : List Value) : Prop :=
  ∀ (other : Preamble) (rest : List Value),
    tokens = other.tokens ++ rest → other.tokens.length ≤ p.tokens.length

end Preamble

/-! ## Taking a sigil -/

/-- The sigil of a sort that tokens start with, if they do, and the rest. -/
def takeSigil (sort : Sigil → Bool) (tokens : List Value) : Option Sigil × List Value :=
  match tokens with
  | .sigil s :: rest => if sort s then (some s, rest) else (none, tokens)
  | _ => (none, tokens)

section Taking

variable {sort : Sigil → Bool}

theorem takeSigil_cons {s : Sigil} (h : sort s) (rest : List Value) :
    takeSigil sort (.sigil s :: rest) = (some s, rest) := by
  simp [takeSigil, h]

theorem takeSigil_cons_other {s : Sigil} (h : sort s = false) (rest : List Value) :
    takeSigil sort (.sigil s :: rest) = (none, .sigil s :: rest) := by
  simp [takeSigil, h]

theorem tokens_of_takeSigil {tokens rest : List Value} {o : Option Sigil}
    (h : takeSigil sort tokens = (o, rest)) : tokens = o.toList.map .sigil ++ rest := by
  unfold takeSigil at h
  grind

theorem sort_of_takeSigil (tokens : List Value) : ∀ s ∈ (takeSigil sort tokens).1, sort s := by
  unfold takeSigil
  grind

end Taking

/-! ## Taking a preamble -/

namespace Preamble

/-- The preamble that is taken off tokens, one sort of sigil after the other. -/
def take (tokens : List Value) : Preamble :=
  let output := takeSigil Sigil.isOutput tokens
  let revert := takeSigil Sigil.isRevert output.2
  { output := output.1
    revert := revert.1
    separator :=
      if output.1.isSome || revert.1.isSome then (takeSigil Sigil.isSeparator revert.2).1 else none
    isOutput := sort_of_takeSigil _
    isRevert := sort_of_takeSigil _
    isSeparator := by
      split
      · exact sort_of_takeSigil _
      · simp
    separates := by
      intro h
      split at h
      · simp_all
      · simp at h }

/-- What is left behind the preamble that is taken off tokens. -/
def rest (tokens : List Value) : List Value :=
  let output := takeSigil Sigil.isOutput tokens
  let revert := takeSigil Sigil.isRevert output.2
  if output.1.isSome || revert.1.isSome then (takeSigil Sigil.isSeparator revert.2).2 else revert.2

theorem tokens_eq_take_append (tokens : List Value) :
    tokens = (take tokens).tokens ++ rest tokens := by
  simp only [take, rest, Preamble.tokens, sigils]
  rcases ho : takeSigil Sigil.isOutput tokens with ⟨o, t⟩
  rcases hr : takeSigil Sigil.isRevert t with ⟨r, u⟩
  rcases hs : takeSigil Sigil.isSeparator u with ⟨s, v⟩
  have ht := tokens_of_takeSigil ho
  have hu := tokens_of_takeSigil hr
  have hv := tokens_of_takeSigil hs
  rcases o with _ | o <;> rcases r with _ | r <;> simp_all

/-- Taking sigils one sort after the other takes as many as the grammar allows. -/
theorem take_isLongest (tokens : List Value) : (take tokens).IsLongest tokens := by
  rintro ⟨o, r, s, ho, hr, hs, hsep⟩ rest rfl
  simp only [Preamble.tokens, sigils, take, List.length_map, List.length_append]
  have hs' : ∀ x ∈ s, x.isOutput = false ∧ x.isRevert = false :=
    fun x hx => Sigil.others_of_isSeparator (hs x hx)
  have hr' : ∀ x ∈ r, x.isOutput = false := fun x hx => Sigil.isOutput_of_isRevert (hr x hx)
  rcases s with _ | s
  · rcases o with _ | o
    · rcases r with _ | r <;> simp [takeSigil_cons, takeSigil_cons_other, *]
    · rcases r with _ | r
      · simp [takeSigil_cons, *]
        omega
      · simp [takeSigil_cons, *]
  · rcases o with _ | o
    · rcases r with _ | r
      · simp at hsep
      · simp [takeSigil_cons, takeSigil_cons_other, *]
    · rcases r with _ | r <;> simp [takeSigil_cons, takeSigil_cons_other, *]

/-- No sort of sigil is taken off tokens that start with another one. -/
theorem takeSigil_rest {sort : Sigil → Bool} (hsort : ∀ s, sort s → s.isLeading)
    {tokens : List Value} (h : ∀ v ∈ tokens.head?, v.isLeadingSigil = false) :
    takeSigil sort tokens = (none, tokens) := by
  unfold takeSigil
  split
  · next s rest =>
    have hs : s.isLeading = false := h (.sigil s) rfl
    have : sort s = false := by simpa [hs] using hsort s
    simp [this]
  · rfl

/-- The preamble that is taken off is the one that was put in front, unless it goes on. -/
theorem take_append (p : Preamble) {tokens : List Value}
    (hrest : ∀ v ∈ tokens.head?, v.isLeadingSigil = false) :
    take (p.tokens ++ tokens) = p ∧ rest (p.tokens ++ tokens) = tokens := by
  have hno : takeSigil Sigil.isOutput tokens = (none, tokens) :=
    takeSigil_rest (fun s hs => by simp [Sigil.isLeading_eq, hs]) hrest
  have hnr : takeSigil Sigil.isRevert tokens = (none, tokens) :=
    takeSigil_rest (fun s hs => by simp [Sigil.isLeading_eq, hs]) hrest
  have hns : takeSigil Sigil.isSeparator tokens = (none, tokens) :=
    takeSigil_rest (fun s hs => by simp [Sigil.isLeading_eq, hs]) hrest
  rcases p with ⟨o, r, s, ho, hr, hs, hsep⟩
  have hs' : ∀ x ∈ s, x.isOutput = false ∧ x.isRevert = false :=
    fun x hx => Sigil.others_of_isSeparator (hs x hx)
  have hr' : ∀ x ∈ r, x.isOutput = false := fun x hx => Sigil.isOutput_of_isRevert (hr x hx)
  rcases o with _ | o
  · rcases r with _ | r
    · rcases s with _ | s
      · simp [Preamble.tokens, sigils, take, rest, *]
      · simp at hsep
    · rcases s with _ | s <;>
        simp [Preamble.tokens, sigils, take, rest, takeSigil_cons, takeSigil_cons_other, *]
  · rcases r with _ | r <;> rcases s with _ | s <;>
      simp [Preamble.tokens, sigils, take, rest, takeSigil_cons, takeSigil_cons_other, *]

end Preamble

/-! ## Content -/

namespace Leading

theorem stray?_eq_none {content : List Value} :
    stray? content = none ↔ ∀ v ∈ content, v.isLeadingSigil = false := by
  induction content with
  | nil => simp [stray?]
  | cons v content ih =>
    cases v with
    | sigil s => by_cases h : s.isLeading <;> simp [stray?, Value.isLeadingSigil, h, ih]
    | _ => simp [stray?, Value.isLeadingSigil, ih]

theorem find?_of_stray? {content : List Value} {s : Sigil} (h : stray? content = some s) :
    content.find? Value.isLeadingSigil = some (.sigil s) := by
  induction content with
  | nil => cases h
  | cons v content ih =>
    cases v with
    | sigil t => by_cases ht : t.isLeading <;> simp_all [stray?, Value.isLeadingSigil]
    | _ => simp_all [stray?, Value.isLeadingSigil]

theorem checkContent_eq_ok {afterRevert : Bool} {content : List Value} :
    checkContent afterRevert content = .ok () ↔ ∀ v ∈ content, v.isLeadingSigil = false := by
  rw [← stray?_eq_none, checkContent]
  split
  · simp [*]
  · split
    · split <;> simp [*]
    · simp [*]

/-- Whether a revert sigil was read matters only to content that starts with a stray sigil. -/
theorem checkContent_of_head? {content : List Value}
    (h : ∀ v ∈ content.head?, v.isLeadingSigil = false) (afterRevert : Bool) :
    checkContent afterRevert content = checkContent false content := by
  unfold checkContent
  split
  · rfl
  · split
    · next t _ _ =>
      have ht : t.isLeading = false := h (.sigil t) rfl
      simp [ht]
    · rfl

/-- Refused content has a stray sigil, of which it matters whether it starts the content. -/
theorem checkContent_eq_error {afterRevert : Bool} {content : List Value} {e : SigilError}
    (h : checkContent afterRevert content = .error e) :
    ∃ s : Sigil, content.find? Value.isLeadingSigil = some (.sigil s) ∧
      e = if afterRevert ∧ s.isOutput ∧ (content.head?.any Value.isLeadingSigil) then
        .outputAfterRevert s else .unexpected s := by
  unfold checkContent at h
  rcases hs : stray? content with _ | s
  · simp [hs] at h
  · refine ⟨s, find?_of_stray? hs, ?_⟩
    simp only [hs] at h
    rcases content with _ | ⟨v, content⟩
    · cases hs
    · cases v with
      | sigil t =>
        by_cases ht : t.isLeading
        · obtain rfl : t = s := by simpa [stray?, ht] using hs
          cases afterRevert <;> by_cases ho : t.isOutput <;>
            simp_all [Sigil.isOutput, Value.isLeadingSigil]
        · simp_all [Value.isLeadingSigil]
      | _ => simp_all [Value.isLeadingSigil]

end Leading

/-! ## Reading -/

namespace Leading

theorem readOutput_eq (constFormat : Bool) (tokens : List Value) :
    readOutput constFormat tokens =
      if (Preamble.take tokens).output = some .constFormat ∧ constFormat = false then
        .error .constFormatDisabled
      else .ok ((Preamble.take tokens).outputMode?, (takeSigil Sigil.isOutput tokens).2) := by
  unfold readOutput Preamble.outputMode? Preamble.take takeSigil
  split
  · next s rest =>
    cases s <;> cases constFormat <;> simp [Sigil.isOutput, Sigil.output?]
  · simp

theorem readRevert_eq (tokens : List Value) :
    readRevert tokens =
      ((takeSigil Sigil.isRevert tokens).1.bind Sigil.revert?,
        (takeSigil Sigil.isRevert tokens).2) := by
  unfold readRevert takeSigil
  split
  · next s rest =>
    cases s <;> simp [Sigil.isRevert, Sigil.revert?]
  · simp

theorem dropSeparator_eq (tokens : List Value) :
    dropSeparator tokens = (takeSigil Sigil.isSeparator tokens).2 := by
  unfold dropSeparator takeSigil Sigil.isSeparator
  grind

theorem isSome_bind_output? {o : Option Sigil} (h : ∀ s ∈ o, s.isOutput) :
    (o.bind Sigil.output?).isSome = o.isSome := by
  rcases o with _ | s
  · rfl
  · exact h s rfl

theorem isSome_bind_revert? {o : Option Sigil} (h : ∀ s ∈ o, s.isRevert) :
    (o.bind Sigil.revert?).isSome = o.isSome := by
  rcases o with _ | s
  · rfl
  · exact h s rfl

theorem take_output_eq_constFormat {tokens : List Value} :
    (Preamble.take tokens).output = some .constFormat ↔
      tokens.head? = some (.sigil .constFormat) := by
  simp only [Preamble.take, takeSigil]
  split
  · next s rest =>
    cases s <;> simp [Sigil.isOutput, Sigil.output?]
  · next h =>
    rcases tokens with _ | ⟨v, tokens⟩
    · simp
    · simp only [reduceCtorEq, List.head?_cons, Option.some.injEq, false_iff]
      rintro rfl
      exact h _ _ rfl

/-- Whether a call starts with the sigil for constant text while that is disabled. -/
def IsDisabled (constFormat : Bool) (tokens : List Value) : Prop :=
  tokens.head? = some (.sigil .constFormat) ∧ constFormat = false

theorem read_of_disabled {constFormat : Bool} {tokens : List Value}
    (h : IsDisabled constFormat tokens) :
    read constFormat tokens = .error .constFormatDisabled := by
  rw [IsDisabled, ← take_output_eq_constFormat] at h
  rw [read, readOutput_eq, if_pos h]
  rfl

/-- Content does not start with the sigil for constant text. -/
theorem isDisabled_append {constFormat : Bool} {preamble tokens : List Value}
    (h : ∀ v ∈ tokens.head?, v.isLeadingSigil = false) :
    IsDisabled constFormat (preamble ++ tokens) ↔ IsDisabled constFormat preamble := by
  cases preamble with
  | nil =>
    refine iff_of_false ?_ fun hnil => by cases hnil.1
    rintro ⟨hfirst, -⟩
    cases h _ hfirst
  | cons v preamble => rfl

/-- What a preamble and the content behind it are read as. -/
def ofPreamble (preamble : Preamble) (content : List Value) : Leading :=
  ⟨preamble.outputMode?, preamble.revertMode?, content⟩

/-- Reading a call takes its preamble off and looks at the rest. -/
theorem read_of_not_disabled {constFormat : Bool} {tokens : List Value}
    (h : ¬IsDisabled constFormat tokens) :
    read constFormat tokens =
      (checkContent (Preamble.take tokens).revert.isSome (Preamble.rest tokens)).map fun _ =>
        ofPreamble (Preamble.take tokens) (Preamble.rest tokens) := by
  rw [IsDisabled, ← take_output_eq_constFormat] at h
  have ho : (Preamble.take tokens).outputMode?.isSome = (Preamble.take tokens).output.isSome :=
    isSome_bind_output? (Preamble.take tokens).isOutput
  have hr : (Preamble.take tokens).revertMode?.isSome = (Preamble.take tokens).revert.isSome :=
    isSome_bind_revert? (Preamble.take tokens).isRevert
  have hrevert : readRevert (takeSigil Sigil.isOutput tokens).2 =
      ((Preamble.take tokens).revertMode?,
        (takeSigil Sigil.isRevert (takeSigil Sigil.isOutput tokens).2).2) :=
    readRevert_eq _
  rw [read, readOutput_eq, if_neg h]
  simp only [Except.bind, bind, hrevert, dropSeparator_eq, ho, hr]
  rfl

/-- What stands behind a preamble is checked in the same way behind every preamble, as long as it
does not start with a sigil of a preamble. -/
theorem read_append {constFormat : Bool} (p : Preamble) {tokens : List Value}
    (hc : ¬IsDisabled constFormat (p.tokens ++ tokens))
    (hrest : ∀ v ∈ tokens.head?, v.isLeadingSigil = false) :
    read constFormat (p.tokens ++ tokens) =
      (checkContent false tokens).map fun _ => ofPreamble p tokens := by
  obtain ⟨htake, htokens⟩ := Preamble.take_append p hrest
  rw [read_of_not_disabled hc, htake, htokens, checkContent_of_head? hrest]

/-- The preamble of a call that starts with its content. -/
def noPreamble : Preamble where
  output := none
  revert := none
  separator := none
  isOutput := by simp
  isRevert := by simp
  isSeparator := by simp
  separates := by simp

theorem read_content {constFormat : Bool} {tokens : List Value}
    (hrest : ∀ v ∈ tokens.head?, v.isLeadingSigil = false) :
    read constFormat tokens = (checkContent false tokens).map fun _ => ⟨none, none, tokens⟩ := by
  refine read_append noPreamble ?_ hrest
  rw [isDisabled_append hrest]
  rintro ⟨hfirst, -⟩
  cases hfirst

/-- Content without the sigils of a preamble is accepted behind every preamble that is enabled. -/
theorem read_preamble {constFormat : Bool} (p : Preamble)
    (hc : ¬IsDisabled constFormat p.tokens) {tokens : List Value}
    (hcontent : ∀ v ∈ tokens, v.isLeadingSigil = false) :
    read constFormat (p.tokens ++ tokens) = .ok (ofPreamble p tokens) := by
  have hrest : ∀ v ∈ tokens.head?, v.isLeadingSigil = false :=
    fun v hv => hcontent v (List.mem_of_mem_head? hv)
  rw [read_append p (mt (isDisabled_append hrest).mp hc) hrest, checkContent_eq_ok.mpr hcontent]
  rfl

/-- A call is accepted as a preamble and content without the sigils of a preamble, unless it starts
with the sigil for constant text while that is disabled. -/
theorem read_eq_ok {constFormat : Bool} {tokens : List Value} {l : Leading} :
    read constFormat tokens = .ok l ↔
      ¬IsDisabled constFormat tokens ∧
      ∃ p : Preamble, tokens = p.tokens ++ l.content ∧
        (∀ v ∈ l.content, v.isLeadingSigil = false) ∧
        l.output = p.outputMode? ∧ l.revert = p.revertMode? := by
  by_cases hc : IsDisabled constFormat tokens
  · simp [read_of_disabled hc, hc]
  · rw [read_of_not_disabled hc]
    constructor
    · intro h
      rcases hcheck : checkContent (Preamble.take tokens).revert.isSome (Preamble.rest tokens) with
        e | u
      · rw [hcheck] at h
        cases h
      · rw [hcheck] at h
        obtain rfl := Except.ok.inj h
        exact ⟨hc, Preamble.take tokens, Preamble.tokens_eq_take_append tokens,
          checkContent_eq_ok.mp hcheck, rfl, rfl⟩
    · rintro ⟨-, p, rfl, hcontent, houtput, hrevert⟩
      obtain ⟨htake, hrest⟩ :=
        Preamble.take_append p fun v hv => hcontent v (List.mem_of_mem_head? hv)
      rw [htake, hrest, checkContent_eq_ok.mpr hcontent, ofPreamble, ← houtput, ← hrevert]
      rfl

/-- A call that is refused for another reason has one of the sigils of a preamble behind the longest
preamble, and the first of these is reported. It is out of order if it picks the output right behind
a preamble that reverts. -/
theorem read_eq_error {constFormat : Bool} {tokens : List Value} {e : SigilError}
    (h : read constFormat tokens = .error e) (hc : ¬IsDisabled constFormat tokens) :
    ∃ (p : Preamble) (rest : List Value) (s : Sigil),
      tokens = p.tokens ++ rest ∧ p.IsLongest tokens ∧
      rest.find? Value.isLeadingSigil = some (.sigil s) ∧
      e = if p.revert.isSome ∧ s.isOutput ∧ rest.head?.any Value.isLeadingSigil then
        .outputAfterRevert s else .unexpected s := by
  rw [read_of_not_disabled hc] at h
  rcases hcheck : checkContent (Preamble.take tokens).revert.isSome (Preamble.rest tokens) with
      e' | u
  · rw [hcheck] at h
    obtain rfl := Except.error.inj h
    obtain ⟨s, hs, he⟩ := checkContent_eq_error hcheck
    exact ⟨Preamble.take tokens, Preamble.rest tokens, s, Preamble.tokens_eq_take_append tokens,
      Preamble.take_isLongest tokens, hs, he⟩
  · rw [hcheck] at h
    cases h

/-- The sigils in front of the content are those of a preamble, so the content is the other tokens.
-/
theorem content_eq_filter {p : Preamble} {content : List Value}
    (hcontent : ∀ v ∈ content, v.isLeadingSigil = false) :
    content = (p.tokens ++ content).filter fun v => !v.isLeadingSigil := by
  have hpreamble : ∀ v ∈ p.tokens, v.isLeadingSigil := by
    intro v hv
    obtain ⟨s, hs, rfl⟩ := List.mem_map.mp hv
    exact p.isLeading_of_mem hs
  have hnone : (p.tokens.filter fun v => !v.isLeadingSigil) = [] := by
    rw [List.filter_eq_nil_iff]
    intro v hv
    simp [hpreamble v hv]
  have hall : (content.filter fun v => !v.isLeadingSigil) = content := by
    rw [List.filter_eq_self]
    intro v hv
    simp [hcontent v hv]
  rw [List.filter_append, hnone, hall, List.nil_append]

theorem any_head?_of_find? {rest : List Value} {s : Sigil}
    (h : rest.find? Value.isLeadingSigil = some (.sigil s)) :
    rest.head?.any Value.isLeadingSigil ↔ rest.head? = some (.sigil s) := by
  rcases rest with _ | ⟨v, rest⟩
  · cases h
  · have hs : (Value.sigil s).isLeadingSigil := List.find?_some h
    by_cases hv : v.isLeadingSigil
    · simp_all
    · have hne : v ≠ .sigil s := by
        rintro rfl
        exact hv hs
      simp [hv, hne]

/-- The two messages of a stray sigil start differently. -/
theorem message_ne (a b c d : String) :
    "Output sigil '" ++ a ++ b ≠ "Unexpected sigil '" ++ c ++ d := by
  intro h
  have hchars := congrArg String.toList h
  have ho : "Output sigil '".toList = 'O' :: "utput sigil '".toList := by simp
  have hu : "Unexpected sigil '".toList = 'U' :: "nexpected sigil '".toList := by simp
  rw [String.toList_append, String.toList_append, String.toList_append, String.toList_append, ho,
    hu] at hchars
  exact absurd (List.cons.inj hchars).1 (by decide)

/-- Reading accepts exactly the grammar. What it accepts is the preamble of the call with the modes
that the preamble names, and the content, which is every token that is no sigil of a preamble. The
sigil for constant text in front is refused while that is disabled, and nothing else is refused that
way. Any other refusal is about the first sigil of a preamble behind the longest preamble, and says
that an output sigil came too late if it stands right behind a preamble that reverts. -/
theorem read_grammar (constFormat : Bool) (tokens : List Value) :
    (∀ l, read constFormat tokens = .ok l ↔
      ¬IsDisabled constFormat tokens ∧
      ∃ p : Preamble, tokens = p.tokens ++ l.content ∧
        (∀ v ∈ l.content, v.isLeadingSigil = false) ∧
        l.output = p.outputMode? ∧ l.revert = p.revertMode?) ∧
    (∀ l, read constFormat tokens = .ok l →
      (∃ p : Preamble, tokens = p.tokens ++ l.content ∧ l.modes = p.modes) ∧
      l.content = tokens.filter fun v => !v.isLeadingSigil) ∧
    ((∃ e, read constFormat tokens = .error e ∧ e.errorClass = .unsupportedMode) ↔
      IsDisabled constFormat tokens) ∧
    ∀ e, read constFormat tokens = .error e → e.errorClass ≠ .unsupportedMode →
      e.errorClass = .grammar ∧
      ∃ (p : Preamble) (rest : List Value) (s : Sigil),
        tokens = p.tokens ++ rest ∧ p.IsLongest tokens ∧
        rest.find? Value.isLeadingSigil = some (.sigil s) ∧
        e.subject? = some (.sigil s) ∧
        (e.message = "Output sigil '" ++ s.text ++ "' must come before the revert sigil" ↔
          p.revert.isSome ∧ s.isOutput ∧ rest.head? = some (.sigil s)) ∧
        (e.message = "Unexpected sigil '" ++ s.text ++ "'" ↔
          ¬(p.revert.isSome ∧ s.isOutput ∧ rest.head? = some (.sigil s))) := by
  refine ⟨fun l => read_eq_ok, ?_, ?_, ?_⟩
  · intro l hl
    obtain ⟨-, p, htokens, hcontent, houtput, hrevert⟩ := read_eq_ok.mp hl
    refine ⟨⟨p, htokens, by rw [modes, houtput, hrevert]; rfl⟩, ?_⟩
    rw [htokens]
    exact content_eq_filter hcontent
  · constructor
    · rintro ⟨e, he, hclass⟩
      refine Classical.byContradiction fun hc => ?_
      obtain ⟨p, rest, s, -, -, -, rfl⟩ := read_eq_error he hc
      split at hclass <;> cases hclass
    · exact fun hc => ⟨_, read_of_disabled hc, rfl⟩
  · intro e he hclass
    have hc : ¬IsDisabled constFormat tokens := by
      intro hc
      rw [read_of_disabled hc] at he
      obtain rfl := Except.error.inj he
      exact hclass rfl
    obtain ⟨p, rest, s, htokens, hlongest, hfind, rfl⟩ := read_eq_error he hc
    refine ⟨by split <;> rfl, p, rest, s, htokens, hlongest, hfind, by split <;> rfl, ?_⟩
    rw [← any_head?_of_find? hfind]
    by_cases hlate : p.revert.isSome ∧ s.isOutput ∧ rest.head?.any Value.isLeadingSigil
    · rw [if_pos hlate]
      exact ⟨iff_of_true rfl hlate, iff_of_false (message_ne _ _ _ _) fun h => h hlate⟩
    · rw [if_neg hlate]
      exact ⟨iff_of_false (message_ne _ _ _ _).symm hlate, iff_of_true rfl hlate⟩

/-- The separator belongs to the preamble, so the output sigil stands right behind it. -/
example : read true [.sigil .revertTotal, .sigil .separator, .sigil .format] =
    .error (.outputAfterRevert .format) := by
  rfl

end Leading

end Sgr
