import Mathlib.Data.List.DropRight
import Sgr.Text.Blank
import Sgr.Text.Case

/-!
# Blanks and words

The words of a text are what is left of it between its blanks. So they do not depend on which blanks
stand between them and how many, and a blank cuts a text in two whose words can be taken one after
the other. Dropping the blanks at the ends keeps the words, and so does putting them together again
with a blank between them.

## Main definitions

* `Text.IsWord` — a text that is one word.

## Main statements

* `Text.wordChars_eq_splitOnP` — the words are the parts between blanks that are not empty.
* `Text.words_strip`, `Text.words_lower`, `Text.words_intercalate` — the words of a text that was
  changed.
* `Text.strip_of_words` — a text with one word is that word but for its blanks.
-/

namespace Sgr.Text

section Lists

variable {α : Type}

theorem dropWhile_of_forall {p : α → Bool} {xs : List α} (h : ∀ x ∈ xs, p x = false) :
    xs.dropWhile p = xs := by
  rw [List.dropWhile_eq_self_iff]
  intro hlength
  simp [h _ (List.getElem_mem hlength)]

/-- A list is cut in front of the first element without a property. -/
theorem exists_span (p : α → Bool) (xs : List α) :
    ∃ front rest, xs = front ++ rest ∧ (∀ x ∈ front, p x) ∧ ∀ x r, rest = x :: r → p x = false := by
  induction xs with
  | nil => exact ⟨[], [], rfl, by simp, by simp⟩
  | cons x xs ih =>
    rcases hx : p x with _ | _
    · refine ⟨[], x :: xs, rfl, by simp, fun y r h => ?_⟩
      rw [← (List.cons.inj h).1, hx]
    · obtain ⟨front, rest, rfl, hfront, hrest⟩ := ih
      exact ⟨x :: front, rest, rfl, List.forall_mem_cons.mpr ⟨hx, hfront⟩, hrest⟩

end Lists

/-! ## Blanks at the ends -/

theorem stripChars_eq (cs : List Char) :
    stripChars cs = (cs.dropWhile isBlank).rdropWhile isBlank :=
  rfl

/-- Without its blanks a text has none to lose. -/
theorem stripChars_stripChars (cs : List Char) : stripChars (stripChars cs) = stripChars cs := by
  have hfront : (stripChars cs).dropWhile isBlank = stripChars cs := by
    rw [List.dropWhile_eq_self_iff]
    intro hlength
    have hstart : stripChars cs <+: cs.dropWhile isBlank := List.rdropWhile_prefix _ _
    rw [hstart.getElem hlength]
    exact List.dropWhile_get_zero_not isBlank cs _
  rw [stripChars_eq (stripChars cs), hfront, stripChars_eq, List.rdropWhile_idempotent]

theorem stripChars_strip (s : String) : stripChars (strip s).toList = (strip s).toList := by
  rw [strip, String.toList_ofList, stripChars_stripChars]

/-- What is dropped at the ends are blanks. -/
theorem exists_stripChars (cs : List Char) :
    ∃ front back, cs = front ++ (stripChars cs ++ back) ∧ (∀ c ∈ front, isBlank c) ∧
      ∀ c ∈ back, isBlank c := by
  refine ⟨cs.takeWhile isBlank, (cs.dropWhile isBlank).rtakeWhile isBlank, ?_,
    fun _ => List.mem_takeWhile_imp, fun _ => List.mem_rtakeWhile_imp⟩
  rw [stripChars_eq, List.rdropWhile_append_rtakeWhile, List.takeWhile_append_dropWhile]

/-- Nothing but the blanks at the ends is dropped from a word. -/
theorem stripChars_of_blanks {front cs back : List Char} (hfront : ∀ c ∈ front, isBlank c)
    (hne : cs ≠ []) (hcs : ∀ c ∈ cs, isBlank c = false) (hback : ∀ c ∈ back, isBlank c) :
    stripChars (front ++ (cs ++ back)) = cs := by
  obtain ⟨c, r, rfl⟩ := List.exists_cons_of_ne_nil hne
  have hstart : (c :: r ++ back).dropWhile isBlank = c :: r ++ back :=
    List.dropWhile_cons_of_neg (by simp [hcs c List.mem_cons_self])
  rw [stripChars, List.dropWhile_append_of_pos hfront, hstart, List.reverse_append,
    List.dropWhile_append_of_pos (by simpa using hback),
    dropWhile_of_forall fun x hx => hcs x (List.mem_reverse.mp hx), List.reverse_reverse]

/-- Nothing is dropped from a text that has no blanks. -/
theorem strip_of_forall {s : String} (h : ∀ c ∈ s.toList, isBlank c = false) : strip s = s := by
  rw [strip, stripChars, dropWhile_of_forall h, dropWhile_of_forall (by simpa using h),
    List.reverse_reverse, String.ofList_toList]

/-! ## Words between blanks -/

/-- A character that is no blank begins a word. -/
theorem exists_wordChars_cons {c : Char} (h : isBlank c = false) (r : List Char) :
    ∃ w ws, wordChars (c :: r) = (c :: w) :: ws := by
  rw [wordChars.eq_def]
  rcases r with _ | ⟨d, r⟩
  · exact ⟨[], [], by simp [h]⟩
  · rcases hd : isBlank d with _ | _
    · rcases hwords : wordChars (d :: r) with _ | ⟨w, ws⟩
      · exact ⟨[], [], by simp [h, hd, hwords]⟩
      · exact ⟨w, ws, by simp [h, hd, hwords]⟩
    · exact ⟨[], wordChars (d :: r), by simp [h, hd]⟩

/-- The words are the parts between blanks that are not empty. -/
theorem wordChars_eq_splitOnP (cs : List Char) :
    wordChars cs = (cs.splitOnP isBlank).filter (!·.isEmpty) := by
  induction cs with
  | nil => rfl
  | cons c r ih =>
    rw [wordChars.eq_def, List.splitOnP_cons_eq_if_modifyHead]
    rcases hc : isBlank c with _ | _
    · cases r with
      | nil => simp [hc]
      | cons d r =>
        rw [List.splitOnP_cons_eq_if_modifyHead] at ih ⊢
        rcases hd : isBlank d with _ | _
        · rcases hparts : r.splitOnP isBlank with _ | ⟨part, parts⟩
          · exact absurd hparts (List.splitOnP_ne_nil isBlank r)
          · simp [hc, hd, hparts, ih]
        · simp [hc, hd, ih]
    · simp [hc, ih]

/-- A blank cuts a text in two. -/
theorem wordChars_append_cons {x : Char} (hx : isBlank x) (cs ds : List Char) :
    wordChars (cs ++ x :: ds) = wordChars cs ++ wordChars ds := by
  simp only [wordChars_eq_splitOnP, List.splitOnP_append_cons cs ds hx, List.filter_append]

theorem wordChars_cons {x : Char} (hx : isBlank x) (cs : List Char) :
    wordChars (x :: cs) = wordChars cs :=
  wordChars_append_cons hx [] cs

theorem wordChars_of_forall {cs : List Char} (hne : cs ≠ []) (h : ∀ c ∈ cs, isBlank c = false) :
    wordChars cs = [cs] := by
  rw [wordChars_eq_splitOnP, List.splitOnP_eq_singleton h]
  simp [hne]

theorem wordChars_append_of_blanks {front : List Char} (h : ∀ c ∈ front, isBlank c)
    (cs : List Char) : wordChars (front ++ cs) = wordChars cs := by
  induction front with
  | nil => rfl
  | cons x front ih =>
    obtain ⟨hx, hfront⟩ := List.forall_mem_cons.mp h
    rw [List.cons_append, wordChars_cons hx, ih hfront]

theorem wordChars_append_blanks {back : List Char} (h : ∀ c ∈ back, isBlank c) (cs : List Char) :
    wordChars (cs ++ back) = wordChars cs := by
  cases back with
  | nil => rw [List.append_nil]
  | cons x back =>
    obtain ⟨hx, hback⟩ := List.forall_mem_cons.mp h
    have hnone := wordChars_append_of_blanks hback []
    rw [List.append_nil] at hnone
    rw [wordChars_append_cons hx, hnone, wordChars, List.append_nil]

theorem wordChars_eq_nil {cs : List Char} (h : wordChars cs = []) : ∀ c ∈ cs, isBlank c := by
  induction cs with
  | nil => simp
  | cons c r ih =>
    rcases hc : isBlank c with _ | _
    · obtain ⟨w, ws, hwords⟩ := exists_wordChars_cons hc r
      rw [hwords] at h
      cases h
    · rw [wordChars_cons hc] at h
      exact List.forall_mem_cons.mpr ⟨hc, ih h⟩

/-- The first word stands behind blanks, and the other words behind it. -/
theorem exists_of_wordChars_cons {cs w : List Char} {ws : List (List Char)}
    (h : wordChars cs = w :: ws) :
    ∃ front rest, cs = front ++ (w ++ rest) ∧ (∀ c ∈ front, isBlank c) ∧ w ≠ [] ∧
      (∀ c ∈ w, isBlank c = false) ∧ wordChars rest = ws := by
  obtain ⟨front, behind, rfl, hfront, hbehind⟩ := exists_span isBlank cs
  rw [wordChars_append_of_blanks hfront] at h
  obtain ⟨word, rest, rfl, hword, hrest⟩ := exists_span (!isBlank ·) behind
  have hchars : ∀ c ∈ word, isBlank c = false := fun c hc => by simpa using hword c hc
  have hne : word ≠ [] := by
    rintro rfl
    cases rest with
    | nil => cases h
    | cons x rest =>
      have hblank := hrest x rest rfl
      rw [hbehind x rest rfl] at hblank
      cases hblank
  have hcut : wordChars (word ++ rest) = word :: wordChars rest := by
    cases rest with
    | nil =>
      rw [List.append_nil, wordChars_of_forall hne hchars]
      rfl
    | cons x rest =>
      have hx : isBlank x := by simpa using hrest x rest rfl
      rw [wordChars_append_cons hx, wordChars_of_forall hne hchars, wordChars_cons hx]
      rfl
  rw [hcut] at h
  obtain ⟨rfl, rfl⟩ := List.cons.inj h
  exact ⟨front, rest, rfl, hfront, hne, hchars, rfl⟩

/-! ## Texts of words -/

/-- A text is one word: it has characters, none of which is a blank. -/
structure IsWord (s : String) : Prop where
  ne_nil : s.toList ≠ []
  isBlank : ∀ c ∈ s.toList, isBlank c = false

variable {s t : String}

theorem IsWord.words (h : IsWord s) : words s = [s] := by
  rw [Text.words, wordChars_of_forall h.ne_nil h.isBlank, List.map_singleton, String.ofList_toList]

theorem isWord_of_mem_words {w : String} (h : w ∈ words s) : IsWord w := by
  have hall {cs : List Char} {ws : List (List Char)} (hcs : wordChars cs = ws) :
      ∀ w ∈ ws, w ≠ [] ∧ ∀ c ∈ w, Text.isBlank c = false := by
    induction ws generalizing cs with
    | nil => simp
    | cons w ws ih =>
      obtain ⟨-, rest, -, -, hne, hchars, hrest⟩ := exists_of_wordChars_cons hcs
      exact List.forall_mem_cons.mpr ⟨⟨hne, hchars⟩, ih hrest⟩
  obtain ⟨cs, hcs, rfl⟩ := List.mem_map.mp h
  obtain ⟨hne, hchars⟩ := hall rfl cs hcs
  exact ⟨by rwa [String.toList_ofList], by rwa [String.toList_ofList]⟩

/-- The words of two texts with a blank between them are those of the texts. -/
theorem words_append_blank (s t : String) : words (s ++ " " ++ t) = words s ++ words t := by
  have hlist : (s ++ " " ++ t).toList = s.toList ++ ' ' :: t.toList := by
    simp
  rw [words, hlist, wordChars_append_cons (by decide), List.map_append, words, words]

/-- Words that are put together with blanks between them are the words of the text. -/
theorem words_intercalate {ws : List String} (h : ∀ w ∈ ws, IsWord w) :
    words (" ".intercalate ws) = ws := by
  induction ws with
  | nil => decide
  | cons w ws ih =>
    obtain ⟨hw, hws⟩ := List.forall_mem_cons.mp h
    cases ws with
    | nil => rw [String.intercalate_singleton, hw.words]
    | cons x ws =>
      rw [String.intercalate_cons_cons, words_append_blank, hw.words, ih hws]
      rfl

theorem words_strip (s : String) : words (strip s) = words s := by
  obtain ⟨front, back, hs, hfront, hback⟩ := exists_stripChars s.toList
  have hwords : wordChars s.toList = wordChars (stripChars s.toList) := by
    conv_lhs => rw [hs]
    rw [wordChars_append_of_blanks hfront, wordChars_append_blanks hback]
  rw [words, words, strip, String.toList_ofList, hwords]

/-- A text that has one word is that word but for its blanks. -/
theorem strip_of_words {w : String} (h : words s = [w]) : strip s = w := by
  obtain ⟨cs, hcs, rfl⟩ := List.map_eq_singleton_iff.mp h
  obtain ⟨front, rest, hs, hfront, hne, hchars, hrest⟩ := exists_of_wordChars_cons hcs
  rw [strip, hs, stripChars_of_blanks hfront hne hchars (wordChars_eq_nil hrest)]

/-! ## Letter case -/

/-- Lower case leaves blanks blank and makes no others. -/
theorem isBlank_lowerChar (c : Char) : isBlank (lowerChar c) = isBlank c := by
  have hcapitals : ∀ k : Fin 128,
      isBlank (lowerChar (Char.ofNat k)) = isBlank (Char.ofNat k) := by
    decide
  by_cases hkelvin : c = '\u212a'
  · rw [hkelvin]
    decide
  · by_cases hupper : c.toNat < 128
    · have hc := hcapitals ⟨c.toNat, hupper⟩
      rwa [Char.ofNat_toNat] at hc
    · have hsame : lowerChar c = c := by
        refine (if_neg hkelvin).trans (dif_neg ?_)
        have hval : c.val.toNat = c.toNat := rfl
        simp only [ge_iff_le, UInt32.le_iff_toNat_le, Char.reduceVal, UInt32.reduceToNat]
        omega
      rw [hsame]

/-- What keeps blanks and makes none keeps words apart. -/
theorem wordChars_map {f : Char → Char} (hf : ∀ c, isBlank (f c) = isBlank c) (cs : List Char) :
    wordChars (cs.map f) = (wordChars cs).map (List.map f) := by
  have hparts : (cs.map f).splitOnP isBlank = (cs.splitOnP isBlank).map (List.map f) := by
    induction cs with
    | nil => rfl
    | cons c cs ih =>
      rw [List.map_cons, List.splitOnP_cons_eq_if_modifyHead,
        List.splitOnP_cons_eq_if_modifyHead, hf, ih]
      split
      · rfl
      · cases cs.splitOnP isBlank <;> rfl
  rw [wordChars_eq_splitOnP, wordChars_eq_splitOnP, hparts, List.filter_map]
  congr 2
  funext part
  simp

theorem words_lower (s : String) : words (lower s) = (words s).map lower := by
  rw [words, words, lower, String.toList_ofList, wordChars_map isBlank_lowerChar, List.map_map,
    List.map_map]
  refine List.map_congr_left fun w _ => ?_
  simp [lower]

end Sgr.Text
