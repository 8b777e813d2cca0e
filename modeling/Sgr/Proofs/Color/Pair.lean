import Sgr.Proofs.Brush.Texts
import Sgr.Proofs.Color.Hex

/-!
# Two colours in one text

A text with the word `in` is cut into its words and put together again on both sides of that word,
so what is read as a colour is not the text that was written but one with the same words. That makes
no difference, except for what an error names: a number is a single word, which loses no more than
the blanks around it, and a name is looked up by its words. So one text for both colours is as good
as a text for each.

## Main definitions

* `ColorPair.ofTexts` — a pair from a text for each colour.
* `Action.outcome` — how an action ends, of a failure only the class.

## Main statements

* `Color.class_ofText` — how a text is read depends on its words.
* `ColorPair.class_ofText` — a text is read as a text for each colour.
* `paint_inText` — the brush of a text is the one of two texts.
-/

namespace Sgr

/-! ## Colours by their words -/

namespace Color

variable {s t : String}

theorem ofText_of_strip (h : Text.strip s = Text.strip t) (p : Plane) :
    ofText s p = ofText t p := by
  simp only [ofText, h]

theorem isWord_of_isHexNumber {n : Nat} (h : IsHexNumber t n) : Text.IsWord t := by
  refine ⟨fun hnil => ?_, isBlank_of_isHexNumber h⟩
  obtain ⟨ds, hs | hs | hs⟩ := exists_cons_of_isHexNumber h <;> exact nomatch hnil.symm.trans hs

theorem isWord_of_isDigits (h : Text.isDigits t) : Text.IsWord t := by
  obtain ⟨hne, hall⟩ := (Bool.and_eq_true ..).mp h
  refine ⟨by simpa using hne, fun c hc => Number.isBlank_of_isDigit ?_⟩
  exact List.all_eq_true.mp hall c hc

/-- A text of several words, or of none, can only be a name. -/
theorem ofText_of_words (h : ∀ w, Text.words s ≠ [w]) (p : Plane) :
    ofText s p = ofName (Text.strip s) p := by
  have hword : ¬Text.IsWord (Text.strip s) := fun hw =>
    h _ ((Text.words_strip s).symm.trans hw.words)
  exact ofText_of_neither (fun ⟨n, hn⟩ => hword (isWord_of_isHexNumber hn))
    (fun hdigits => hword (isWord_of_isDigits hdigits)) p

theorem class_ofName (s : String) (p : Plane) :
    (ofName s p).mapError ColorError.errorClass =
      match ofWords? p ((Text.words s).map Text.lower) with
      | some c => .ok c
      | none => .error .grammar := by
  rw [ofName, Text.words_lower]
  rcases ofWords? p ((Text.words s).map Text.lower) with _ | c <;> rfl

/-- How a text is read depends on its words alone, but for what an error names. -/
theorem class_ofText (h : Text.words s = Text.words t) (p : Plane) :
    (ofText s p).mapError ColorError.errorClass = (ofText t p).mapError ColorError.errorClass := by
  by_cases hone : ∃ w, Text.words s = [w]
  · obtain ⟨w, hw⟩ := hone
    rw [ofText_of_strip ((Text.strip_of_words hw).trans (Text.strip_of_words (h ▸ hw)).symm)]
  · have hnone : ∀ w, Text.words s ≠ [w] := not_exists.mp hone
    rw [ofText_of_words hnone, ofText_of_words (h ▸ hnone), class_ofName, class_ofName,
      Text.words_strip, Text.words_strip, h]

end Color

/-! ## Pairs -/

namespace ColorPair

/-- A pair from a text for each colour. Each text is read on its own. -/
def ofTexts (foreground background : Option String) : Except ColorError ColorPair := do
  return ⟨← foreground.mapM (Color.ofText · .foreground),
    ← background.mapM (Color.ofText · .background)⟩

/-- The words are cut at the first `in`. -/
theorem splitIn_append {ws : List String} (h : "in" ∉ ws) (rest : List String) :
    splitIn (ws ++ "in" :: rest) = (ws, rest) := by
  induction ws with
  | nil => simp [splitIn]
  | cons w ws ih =>
    obtain ⟨hw, hws⟩ := not_or.mp (mt List.mem_cons.mpr h)
    simp [splitIn, Ne.symm hw, ih hws]

theorem splitIn_of_not_mem {ws : List String} (h : "in" ∉ ws) : splitIn ws = (ws, []) := by
  induction ws with
  | nil => rfl
  | cons w ws ih =>
    obtain ⟨hw, hws⟩ := not_or.mp (mt List.mem_cons.mpr h)
    simp [splitIn, Ne.symm hw, ih hws]

/-- The words of a text that may be missing. -/
def wordsOf (t? : Option String) : List String :=
  t?.elim [] Text.words

theorem mapM_some {ε α β : Type} (g : α → Except ε β) (a : α) :
    (some a).mapM g = (g a).map some :=
  rfl

/-- A colour from the words of a text is the colour of the text. -/
theorem class_colorOf {t? : Option String} (h : ∀ t ∈ t?, Text.words t ≠ []) (p : Plane) :
    (colorOf (wordsOf t?) p).mapError ColorError.errorClass =
      (t?.mapM (Color.ofText · p)).mapError ColorError.errorClass := by
  cases t? with
  | none => rfl
  | some t =>
    have hne : (Text.words t).isEmpty = false := by simpa using h t rfl
    have hwords : Text.words (" ".intercalate (Text.words t)) = Text.words t :=
      Text.words_intercalate fun w => Text.isWord_of_mem_words
    rw [mapM_some, mapError_map, ← Color.class_ofText hwords, ← mapError_map]
    simp [colorOf, wordsOf, hne]

theorem isSome_of_mapM {ε α β : Type} {g : α → Except ε β} {a? : Option α} {b? : Option β}
    (h : a?.mapM g = .ok b?) : b?.isSome = a?.isSome := by
  cases a? with
  | none =>
    cases h
    rfl
  | some a =>
    obtain ⟨b, -, rfl⟩ := exists_of_map_ok h
    rfl

/-- A text whose words are cut in those of two texts is read as these. -/
theorem class_ofText {s : String} {front behind : Option String}
    (hfront : ∀ t ∈ front, Text.words t ≠ []) (hbehind : ∀ t ∈ behind, Text.words t ≠ [])
    (hsome : front.isSome ∨ behind.isSome)
    (hsplit : splitIn (Text.words s) = (wordsOf front, wordsOf behind)) :
    (ofText s).mapError ColorError.errorClass =
      (ofTexts front behind).mapError ColorError.errorClass := by
  simp only [ofText, ofTexts, hsplit, mapError_bind, class_colorOf hfront, class_colorOf hbehind]
  rcases hc : front.mapM (Color.ofText · .foreground) with e | c
  · rfl
  · rcases hd : behind.mapM (Color.ofText · .background) with e | d
    · rfl
    · have hgiven : ¬(c.isNone && d.isNone) := by
        rw [← isSome_of_mapM hc, ← isSome_of_mapM hd] at hsome
        rcases hsome with h | h <;> simp [Option.isSome_iff_ne_none.mp h]
      change Except.mapError _ (if c.isNone && d.isNone then _ else _) = _
      rw [if_neg hgiven]
      rfl

/-- Without a word but `in` there is no pair. -/
theorem class_ofText_empty {s : String} (h : Text.words s = [] ∨ Text.words s = ["in"]) :
    (ofText s).mapError ColorError.errorClass = .error .grammar := by
  have hsplit : splitIn (Text.words s) = ([], []) := by
    rcases h with h | h <;> rw [h] <;> rfl
  simp only [ofText, hsplit]
  rfl

end ColorPair

/-! ## In a session -/

/-- How an action ends, of a failure only the class. -/
def Action.outcome {α : Type} (x : Action α) (w : World) : Except ErrorClass α :=
  (x.run.run w).1.mapError Failure.errorClass

/-- The brush that a pair is painted with. -/
def ColorPair.painted (pair : ColorPair) : Except ErrorClass Brush :=
  if pair.kinds.isEmpty then .error .grammar else .ok { name := "paint", kinds := pair.kinds }

theorem outcome_parsePair (s : String) (w : World) :
    (parsePair s).outcome w = (ColorPair.ofText s).mapError ColorError.errorClass := by
  rcases h : ColorPair.ofText s with e | pair
  · simp only [parsePair, h]
    rfl
  · simp only [parsePair, h]
    rfl

/-- One text with `in` is a pair. -/
theorem outcome_paintColors_one {v : Value} {s : String} (hv : v.text? = some s)
    (hin : "in" ∈ Text.words s) (w : World) :
    (paintColors v .nothing).outcome w =
      (ColorPair.ofText s).mapError ColorError.errorClass := by
  have hpair : paintColors v .nothing = parsePair s := by
    simp only [paintColors, hv, if_pos hin]
  rw [hpair, outcome_parsePair]

/-- Two texts are a colour each. -/
theorem outcome_paintColors_two {x y : Value} {f b : String} (hx : x.text? = some f)
    (hy : y.text? = some b) (w : World) :
    (paintColors x y).outcome w =
      (ColorPair.ofTexts (some f) (some b)).mapError ColorError.errorClass := by
  have hcolor {v : Value} {t : String} (hv : v.text? = some t) (p : Plane) :
      optionalColor v p = some <$> Action.lift .color (Color.ofText t p) := by
    cases v with
    | text | sigil =>
      cases hv
      rfl
    | _ => cases hv
  have hboth : paintColors x y =
      some <$> Action.lift .color (Color.ofText f .foreground) >>= fun c =>
        some <$> Action.lift .color (Color.ofText b .background) >>= fun d =>
          pure ⟨c, d⟩ := by
    rw [← hcolor hx, ← hcolor hy, paintColors]
    rintro s - rfl
    cases hy
  rw [hboth]
  rcases hc : Color.ofText f .foreground with e | c
  · simp only [ColorPair.ofTexts, Option.mapM_some, hc]
    rfl
  · rcases hd : Color.ofText b .background with e | d
    · simp only [ColorPair.ofTexts, Option.mapM_some, hc, hd]
      rfl
    · simp only [ColorPair.ofTexts, Option.mapM_some, hc, hd]
      rfl

/-- A brush is painted with what its arguments are as colours. -/
theorem outcome_paint {args more : List Value} {fg : Value} {w : World}
    (hargs : w.store.viewAll args = fg :: more) (hmore : ¬1 < more.length) :
    (paint args).outcome w =
      (paintColors fg (more.headD .nothing)).outcome w >>= ColorPair.painted := by
  have hpaint : (paint args).run.run w =
      (paintColors fg (more.headD .nothing) >>= fun pair =>
        if pair.kinds.isEmpty then throw (.call .noPaint)
        else pure { name := "paint", kinds := pair.kinds }).run.run w := by
    rw [paint, run_bind_ok (run_get w)]
    simp only [hargs, if_neg hmore]
    congr 3
  rw [Action.outcome, Action.outcome, hpaint, run_bind]
  rcases (paintColors fg (more.headD .nothing)).run.run w with ⟨e | pair, w'⟩
  · rfl
  · change _ = pair.painted
    rw [ColorPair.painted]
    by_cases hempty : pair.kinds.isEmpty
    · simp only [if_pos hempty]
      rfl
    · simp only [if_neg hempty]
      rfl

/-! ## One text for two -/

theorem words_inBehind (b : String) : Text.words ("in " ++ b) = "in" :: Text.words b := by
  have hin : Text.words "in" = ["in"] := by
    decide
  have hwords := Text.words_append_blank "in" b
  rwa [hin] at hwords

theorem words_inText (f b : String) :
    Text.words (f ++ " in " ++ b) = Text.words f ++ "in" :: Text.words b := by
  have hblank : f ++ " in " ++ b = f ++ " " ++ ("in " ++ b) := by
    simp only [String.append_assoc]
    rfl
  rw [hblank, Text.words_append_blank, words_inBehind]

/-- With `in` between them, two texts are painted like the two arguments, if each of them has a word
and the first one does not have that word itself. The colours of a pair are those of the texts in
front of `in` and behind it, whatever blanks the texts have, and one of the two must be there. Where
there is an error, its class is the same. -/
theorem paint_inText {f b : String} (hf : Text.words f ≠ []) (hin : "in" ∉ Text.words f)
    (hb : Text.words b ≠ []) :
    (∀ (v x y : Value) (w w' : World), v.text? = some (f ++ " in " ++ b) → x.text? = some f →
      y.text? = some b → (paint [v]).outcome w = (paint [x, y]).outcome w') ∧
    (∀ w, (parsePair (f ++ " in " ++ b)).outcome w =
      (ColorPair.ofTexts (some f) (some b)).mapError ColorError.errorClass) ∧
    (∀ w, (parsePair ("in " ++ b)).outcome w =
      (ColorPair.ofTexts none (some b)).mapError ColorError.errorClass) ∧
    (∀ w, (parsePair f).outcome w =
      (ColorPair.ofTexts (some f) none).mapError ColorError.errorClass) ∧
    ∀ s, Text.words s = [] ∨ Text.words s = ["in"] →
      ∀ w, (parsePair s).outcome w = .error .grammar := by
  have hpair : (ColorPair.ofText (f ++ " in " ++ b)).mapError ColorError.errorClass =
      (ColorPair.ofTexts (some f) (some b)).mapError ColorError.errorClass := by
    refine ColorPair.class_ofText (by simpa using hf) (by simpa using hb) (.inl rfl) ?_
    rw [words_inText, ColorPair.splitIn_append hin]
    rfl
  refine ⟨fun v x y w w' hv hx hy => ?_, fun w => ?_, fun w => ?_, fun w => ?_, fun s hs w => ?_⟩
  · have hone : w.store.viewAll [v] = [v] :=
      w.store.viewAll_texts (by simp [AllTexts, hv])
    have htwo : w'.store.viewAll [x, y] = [x, y] :=
      w'.store.viewAll_texts (by simp [AllTexts, hx, hy])
    have hword : "in" ∈ Text.words (f ++ " in " ++ b) := by simp [words_inText]
    rw [outcome_paint hone (by simp), outcome_paint htwo (by simp), List.headD_nil,
      outcome_paintColors_one hv hword, List.headD_cons, outcome_paintColors_two hx hy, hpair]
  · rw [outcome_parsePair, hpair]
  · rw [outcome_parsePair]
    refine ColorPair.class_ofText (by simp) (by simpa using hb) (.inr rfl) ?_
    rw [words_inBehind]
    rfl
  · rw [outcome_parsePair]
    refine ColorPair.class_ofText (by simpa using hf) (by simp) (.inl rfl) ?_
    rw [ColorPair.splitIn_of_not_mem hin]
    rfl
  · rw [outcome_parsePair, ColorPair.class_ofText_empty hs]

/-- Blanks of any kind, a bright colour, and one in hexadecimal. -/
theorem paint_inText_bright :
    Text.words " Bright\tRED " ≠ [] ∧ "in" ∉ Text.words " Bright\tRED " ∧
      Text.words "#0f0\n" ≠ [] ∧
    (paint [.text " Bright\tRED  in #0f0\n"]).outcome default =
      (paint [.text " Bright\tRED ", .text "#0f0\n"]).outcome default ∧
    (parsePair " Bright\tRED  in #0f0\n").outcome default =
      .ok ⟨some (.basic 1 true .foreground), some (.rgb 0 255 0 .background)⟩ := by
  have hf : Text.words " Bright\tRED " ≠ [] := by decide
  have hin : "in" ∉ Text.words " Bright\tRED " := by decide
  have hb : Text.words "#0f0\n" ≠ [] := by decide
  have hsame := paint_inText hf hin hb
  exact ⟨hf, hin, hb, hsame.1 _ _ _ _ _ rfl rfl rfl, hsame.2.1 default⟩

end Sgr
