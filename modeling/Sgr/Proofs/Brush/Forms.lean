import Sgr.Proofs.Styling

/-!
# The forms of a styling call

A brush can be called under other modes in three ways: put a text of sigils in brackets behind it
and call the brush that this gives, start the content with the same sigils, or call the method of
the output mode with the revert mode as an argument. The modes are chosen at three places, but the
same content is styled under the same modes in the end.

## Main definitions

* `HoldsBoth` — a world holds a brush and the same brush with other modes.

## Main statements

* `bracket_holdsBoth`, `bracket_bracket_holdsBoth` — brackets give a brush with the modes of the
  last text, whatever stood in brackets before.
* `callValue_eq_sigils`, `callValue_eq_method` — the call of such a brush is one with sigils, and
  the call of a method.
* `call_forms_agree` — all of it for a text of sigils.
-/

namespace Sgr

/-- In a world, a value is a brush and another one is the same brush with other modes. -/
structure HoldsBoth (w : World) (m m' : Value) (b : Brush) (modes : Modes) : Prop where
  own : w.store.contents m = .brush b
  other : w.store.contents m' = .brush (b.withModes (some modes.output) (some modes.revert))

variable {w w₁ : World} {m m' : Value} {b : Brush} {p : String} {modes : Modes}

/-! ## Brackets -/

/-- An accepted text of sigils gives the brush with the modes of the text. -/
theorem bracket_holdsBoth (hm : w.store.contents m = .brush b)
    (hp : (prefixModes p none).run.run w = (.ok modes, w₁)) :
    ∃ m' w', (bracket m (.text p)).run.run w = (.ok m', w') ∧ w'.settings = w₁.settings ∧
      HoldsBoth w' m m' b modes := by
  obtain ⟨m', w', hrun, hc, hm', hkeep⟩ := run_bracket hm (run_readPrefix_of_prefixModes hp)
  exact ⟨m', w', hrun, by rw [hc], hkeep m b hm, hm'⟩

/-- A text in brackets behind another one replaces the modes of that. -/
theorem bracket_bracket_holdsBoth (hm : w.store.contents m = .brush b)
    (hp : (prefixModes p none).run.run w = (.ok modes, w₁)) {q : String} {modes' : Modes}
    {w₂ : World} (hq : (prefixModes q none).run.run w = (.ok modes', w₂)) :
    ∃ m' w', (bracket m (.text q) >>= (bracket · (.text p))).run.run w = (.ok m', w') ∧
      w'.settings = w₁.settings ∧ HoldsBoth w' m m' b modes := by
  obtain ⟨s, hs, hactive, hmodes⟩ := settings_of_readPrefix (run_readPrefix_of_prefixModes hp)
  have hreadq := run_readPrefix_of_prefixModes hq
  obtain ⟨s', hs', hactive', -⟩ := settings_of_readPrefix hreadq
  -- both texts are read under the settings that the first of them makes active
  obtain rfl : s' = s := Except.ok.inj (hactive'.symm.trans hactive)
  obtain ⟨m₁, v, hrun, hc, hm₁, hkeep⟩ := run_bracket hm hreadq
  rw [← hc] at hs'
  obtain ⟨c, hreadp, hsettings⟩ := readPrefix_of_settings hs' hmodes
  obtain ⟨m', w', hrun', hc', hm', hkeep'⟩ := run_bracket hm₁ hreadp
  refine ⟨m', w', ?_, by rw [hc', hsettings, hs], hkeep' m b (hkeep m b hm), hm'⟩
  rw [run_bind_ok hrun, hrun']

/-! ## Calls -/

section Calls

variable {s : Settings} {preamble : Preamble} {ts : List Value} {kw : List (String × Value)}

/-- The sigils in front of the content pick the modes that the other brush has. -/
theorem callValue_eq_sigils (h : HoldsBoth w m m' b preamble.modes) (hs : w.settings = some s)
    (hne : preamble.tokens ≠ [])
    (hc : ¬Leading.IsDisabled s.constFormat preamble.tokens)
    (hts : ∀ t ∈ ts.head?, t.isLeadingSigil = false) (hkw : FreeNames kw) :
    (callValue m' ts kw).run.run w = (callValue m (preamble.tokens ++ ts) kw).run.run w := by
  have hself : ∀ a ∈ kw, a.1 ≠ "self" := fun a ha => (hkw a ha).1
  rw [run_callValue h.other hs ts hself, run_callValue h.own hs _ hself, Brush.call_own hts,
    Brush.call_preamble preamble hne hc hts]
  rfl

/-- The method of an output mode styles content as the brush that has the mode. -/
theorem callValue_eq_method (h : HoldsBoth w m m' b modes) (hs : w.settings = some s)
    (hts : ∀ t ∈ ts, t.isLeadingSigil = false) (hkw : FreeNames kw) {method : Method}
    (hmethod : method.output = modes.output)
    (hcase : if method = .literal then kw = [] else ts ≠ []) :
    (callValue m' ts kw).run.run w =
      (callMethod m method (some modes.revert) ts kw).run.run w := by
  have hself : ∀ a ∈ kw, a.1 ≠ "self" := fun a ha => (hkw a ha).1
  have hfirst : ∀ t ∈ ts.head?, t.isLeadingSigil = false :=
    fun t ht => hts t (List.mem_of_mem_head? ht)
  have hcheck : Leading.checkContent false ts = .ok () := Leading.checkContent_eq_ok.mpr hts
  rw [run_callValue h.other hs ts hself, Brush.call_own hfirst, hcheck,
    run_callMethod h.own hs method modes.revert (fun hm => by simpa [hm] using hcase) hkw
      (fun hm => by simpa [hm] using hcase), hmethod]
  rfl

end Calls

/-- A brush with an accepted text of sigils in brackets is the brush with the modes of the text,
also behind another text in brackets, and brushes that are the same are called alike. Such a brush
gives what the brush it came from gives with the sigils of the text in front of the content, in
every world where both are held and the settings are those that the text was accepted under. If the
content has no leading sigils at all, that is what the method of the output mode gives as well. -/
theorem call_forms_agree (hm : w.store.contents m = .brush b)
    (hp : (prefixModes p none).run.run w = (.ok modes, w₁)) {sigils : List Sigil}
    (hsigils : Sigil.tokenize p = .ok sigils) (hne : sigils ≠ []) :
    (∃ m' w', (bracket m (.text p)).run.run w = (.ok m', w') ∧ w'.settings = w₁.settings ∧
      HoldsBoth w' m m' b modes) ∧
    (∀ q modes' w₂, (prefixModes q none).run.run w = (.ok modes', w₂) →
      ∃ m' w', (bracket m (.text q) >>= (bracket · (.text p))).run.run w = (.ok m', w') ∧
        w'.settings = w₁.settings ∧ HoldsBoth w' m m' b modes) ∧
    (∀ w' m₁ m₂, HoldsBoth w' m m₁ b modes → HoldsBoth w' m m₂ b modes → Alike w' m₁ m₂) ∧
    ∀ w' m', w'.settings = w₁.settings → HoldsBoth w' m m' b modes →
      ∀ ts kw, (∀ t ∈ ts.head?, t.isLeadingSigil = false) → FreeNames kw →
        (callValue m' ts kw).run.run w' =
          (callValue m (sigils.map .sigil ++ ts) kw).run.run w' ∧
        ((∀ t ∈ ts, t.isLeadingSigil = false) → ∀ method : Method,
          method.output = modes.output → (if method = .literal then kw = [] else ts ≠ []) →
          (callValue m' ts kw).run.run w' =
            (callMethod m method (some modes.revert) ts kw).run.run w') := by
  obtain ⟨s, hs, -, hmodes⟩ := settings_of_readPrefix (run_readPrefix_of_prefixModes hp)
  refine ⟨bracket_holdsBoth hm hp, fun q modes' w₂ hq => bracket_bracket_holdsBoth hm hp hq,
    fun w' m₁ m₂ h₁ h₂ => alike_of_brush h₁.other h₂.other, ?_⟩
  intro w' m' hw' h ts kw hts hkw
  rw [hs] at hw'
  obtain ⟨preamble, htokens, hc, rfl⟩ := Modes.preamble_of_ofPrefix hsigils hmodes
  have htokens_ne : preamble.tokens ≠ [] := by simpa [← htokens] using hne
  rw [htokens]
  exact ⟨callValue_eq_sigils h hw' htokens_ne hc hts hkw,
    fun hall method hmethod hcase => callValue_eq_method h hw' hall hkw hmethod hcase⟩

/-- Bold text with a template and a total revert, in the three forms. -/
theorem call_forms_agree_bold :
    let w : World := { settings := some {} }
    let bold : Value := .brush { name := "bold", kinds := [.style .bold] }
    let content : List Value := [.text "{}", .int 5]
    ∃ m' w', (bracket bold (.text "@*")).run.run w = (.ok m', w') ∧
      (callValue m' content []).run.run w' =
        (callValue bold (.sigil .string :: .sigil .revertTotal :: content) []).run.run w' ∧
      (callValue m' content []).run.run w' =
        (callMethod bold .string (some .total) content []).run.run w' := by
  intro w bold content
  have hread : ((prefixModes "@*" none).run.run w).1 = .ok ⟨.string, .total⟩ := rfl
  have hsigils : Sigil.tokenize "@*" = .ok [.string, .revertTotal] := rfl
  obtain ⟨⟨m', w', hrun, hw', h⟩, -, -, hforms⟩ :=
    call_forms_agree (m := bold) rfl (Prod.ext hread rfl) hsigils (by simp)
  have hcontent : ∀ t ∈ content, t.isLeadingSigil = false := by
    simp [content, Value.isLeadingSigil]
  obtain ⟨htokens, hmethod⟩ := hforms w' m' hw' h content []
    (fun t ht => hcontent t (List.mem_of_mem_head? ht)) (by simp [FreeNames])
  exact ⟨m', w', hrun, htokens, hmethod hcontent .string rfl (by simp [content])⟩

end Sgr
