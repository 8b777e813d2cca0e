import Sgr.Proofs.Sigil.Prefix

/-!
# Texts that name modes

A text of sigils is split into its sigils if it has no other characters but blanks, and the first
other character is reported. Blanks make no difference. The sigils name modes if they are the marks
of the modes, the one for the output first, with a separator behind them or without one.

## Main definitions

* `Text.inked` — the characters of a text without its blanks.
* `Modes.marks`, `Modes.IsWrittenAs` — the marks of modes, and the characters that name them.

## Main statements

* `Sigil.ofChars_eq` — which texts are split into sigils, and into which.
* `Modes.ofPrefix_eq_ok` — which texts name modes, and which.
* `Modes.ofPrefix_eq_error` — with which classes other texts are refused.
* `readPrefix_exact` — all of this, and that blanks make no difference.
-/

namespace Sgr

/-! ## Characters -/

/-- The characters of sigils. -/
def sigilChars : List Char := ['%', '@', '#', '!', '*', ',', ';']

namespace Text

/-- The characters of a text without its blanks. -/
def inked (s : String) : List Char :=
  s.toList.filter fun c => !isBlank c

/-- Whether a character is neither a blank nor one of a sigil. -/
def isStrange (c : Char) : Bool :=
  !isBlank c && c ∉ sigilChars

theorem find?_isStrange_eq_none {cs : List Char} :
    cs.find? isStrange = none ↔ ∀ c ∈ cs, isBlank c ∨ c ∈ sigilChars := by
  simp [isStrange, Classical.or_iff_not_imp_left]

/-- Blanks are not strange, so the first strange character is found without them. -/
theorem find?_isStrange_inked (s : String) :
    (inked s).find? isStrange = s.toList.find? isStrange := by
  rw [inked, List.find?_filter]
  congr 1
  funext c
  cases h : isBlank c <;> simp [isStrange, h]

end Text

theorem Sigil.char_mem (s : Sigil) : s.char ∈ sigilChars := by
  cases s <;> decide

theorem Sigil.exists_of_mem {c : Char} (h : c ∈ sigilChars) : ∃ s, Sigil.ofChar? c = some s := by
  have hall : sigilChars = Sigil.all.map Sigil.char := rfl
  obtain ⟨s, -, rfl⟩ := List.mem_map.mp (hall ▸ h)
  exact ⟨s, s.ofChar?_char⟩

theorem Sigil.ofChar?_eq_none {c : Char} (h : c ∉ sigilChars) : Sigil.ofChar? c = none := by
  rcases hs : Sigil.ofChar? c with _ | s
  · rfl
  · exact absurd (Sigil.char_of_ofChar? hs ▸ s.char_mem) h

/-! ## Splitting -/

namespace Sigil

/-- A text is split into the sigils of its characters without the blanks, unless one is strange. -/
theorem ofChars_eq (text : String) (cs : List Char) :
    ofChars text cs = match cs.find? Text.isStrange with
      | some c => .error (.unknown c text)
      | none => .ok ((cs.filter fun c => !Text.isBlank c).filterMap ofChar?) := by
  induction cs with
  | nil => rfl
  | cons c cs ih =>
    rw [ofChars]
    by_cases hblank : Text.isBlank c
    · simp [hblank, ih, Text.isStrange]
    -- What is split first is the rest, but a strange character here is reported before any there.
    · by_cases hmem : c ∈ sigilChars
      · obtain ⟨s, hs⟩ := exists_of_mem hmem
        rcases hfind : cs.find? Text.isStrange with _ | d <;> rw [hfind] at ih <;>
          simp [hblank, hs, ih, hmem, hfind, Text.isStrange, Except.map]
      · simp [hblank, ofChar?_eq_none hmem, Text.isStrange, hmem]

/-- Characters that are all of sigils are those of the sigils that are read off them. -/
theorem map_char_filterMap {cs : List Char} (h : ∀ c ∈ cs, c ∈ sigilChars) :
    (cs.filterMap ofChar?).map char = cs := by
  induction cs with
  | nil => rfl
  | cons c cs ih =>
    obtain ⟨hc, hcs⟩ := List.forall_mem_cons.mp h
    obtain ⟨s, hs⟩ := exists_of_mem hc
    rw [List.filterMap_cons_some hs, List.map_cons, ih hcs, char_of_ofChar? hs]

theorem filterMap_map_char (sigils : List Sigil) :
    (sigils.map char).filterMap ofChar? = sigils := by
  induction sigils with
  | nil => rfl
  | cons s sigils ih => rw [List.map_cons, List.filterMap_cons_some s.ofChar?_char, ih]

/-- A text is split into sigils exactly if their characters are all it has besides blanks. -/
theorem tokenize_eq_ok {text : String} {sigils : List Sigil} :
    tokenize text = .ok sigils ↔ Text.inked text = sigils.map char := by
  rw [tokenize, ofChars_eq, ← Text.find?_isStrange_inked]
  constructor
  · intro h
    rcases hfind : (Text.inked text).find? Text.isStrange with _ | c
    · rw [hfind] at h
      obtain rfl := Except.ok.inj h
      refine (map_char_filterMap fun c hc => ?_).symm
      have hink : Text.isBlank c = false := by simpa using (List.mem_filter.mp hc).2
      simpa [hink] using Text.find?_isStrange_eq_none.mp hfind c hc
    · rw [hfind] at h
      cases h
  · intro h
    -- Characters of sigils are not strange, so the text is split, and only into these sigils.
    have hnone : (Text.inked text).find? Text.isStrange = none := by
      rw [Text.find?_isStrange_eq_none, h, List.forall_mem_map]
      exact fun s _ => .inr s.char_mem
    rw [hnone]
    exact congrArg Except.ok ((congrArg _ h).trans (filterMap_map_char sigils))

/-- A text that is not split has a strange character, and the first of these is reported. -/
theorem tokenize_eq_error {text : String} {e : SigilError} :
    tokenize text = .error e ↔
      ∃ c, text.toList.find? Text.isStrange = some c ∧ e = .unknown c text := by
  rw [tokenize, ofChars_eq]
  rcases text.toList.find? Text.isStrange with _ | c <;> simp [eq_comm]

/-- A text is split if it has no strange character. -/
theorem exists_tokenize_eq_ok {text : String} :
    (∃ sigils, tokenize text = .ok sigils) ↔
      ∀ c ∈ text.toList, Text.isBlank c ∨ c ∈ sigilChars := by
  rw [← Text.find?_isStrange_eq_none, tokenize, ofChars_eq]
  rcases text.toList.find? Text.isStrange with _ | c <;> simp

end Sigil

/-! ## Marks -/

/-- The character of an output mode; literal output has none. -/
def OutputMode.marks : OutputMode → List Char
  | literal => []
  | format => ['%']
  | string => ['@']
  | constFormat => ['#']

/-- The character of a revert mode; reverting the kinds' own groups has none. -/
def RevertMode.marks : RevertMode → List Char
  | single => []
  | none => ['!']
  | total => ['*']

namespace Modes

/-- The characters of modes, the one of the output first. -/
def marks (m : Modes) : List Char :=
  m.output.marks ++ m.revert.marks

/-- Whether characters name modes: they are the marks of the modes, and if there is one of these
then a separator may follow. -/
def IsWrittenAs (m : Modes) (cs : List Char) : Prop :=
  cs = m.marks ∨ m.marks ≠ [] ∧ cs = m.marks ++ [',']

end Modes

/-- The mark of the mode that an output sigil picks is its character. -/
theorem Sigil.marks_output? (s : Sigil) :
    s.isOutput → (s.output?.getD .literal).marks = [s.char] := by
  cases s <;> decide

/-- The mark of the mode that a revert sigil picks is its character. -/
theorem Sigil.marks_revert? (s : Sigil) :
    s.isRevert → (s.revert?.getD .single).marks = [s.char] := by
  cases s <;> decide

/-- The marks of modes are the characters of the sigils in front of a separator. -/
theorem Preamble.marks_modes (p : Preamble) :
    p.modes.marks = (p.output.toList ++ p.revert.toList).map Sigil.char := by
  have houtput : (p.outputMode?.getD .literal).marks = p.output.toList.map Sigil.char := by
    rw [outputMode?]
    rcases ho : p.output with _ | s
    · rfl
    · exact s.marks_output? (p.isOutput s ho)
  have hrevert : (p.revertMode?.getD .single).marks = p.revert.toList.map Sigil.char := by
    rw [revertMode?]
    rcases hr : p.revert with _ | s
    · rfl
    · exact s.marks_revert? (p.isRevert s hr)
  rw [Modes.marks, modes, houtput, hrevert, List.map_append]

/-- The characters of a preamble name its modes. -/
theorem Preamble.isWrittenAs (p : Preamble) : p.modes.IsWrittenAs (p.sigils.map Sigil.char) := by
  rw [Modes.IsWrittenAs, marks_modes, sigils, List.map_append]
  rcases hs : p.separator with _ | s
  · exact .inl (List.append_nil _)
  · obtain rfl : s = .separator := by simpa [Sigil.isSeparator] using p.isSeparator s hs
    refine .inr ⟨fun hnil => ?_, rfl⟩
    have hsep := p.separates (by rw [hs]; rfl)
    simp only [List.map_eq_nil_iff, List.append_eq_nil_iff, Option.toList_eq_nil_iff] at hnil
    simp [hnil] at hsep

/-- The sigil of an output mode. -/
def OutputMode.sigil? : OutputMode → Option Sigil
  | literal => none
  | format => some .format
  | string => some .string
  | constFormat => some .constFormat

/-- The sigil of a revert mode. -/
def RevertMode.sigil? : RevertMode → Option Sigil
  | single => Option.none
  | none => some .revertNone
  | total => some .revertTotal

namespace Modes

/-- The preamble that names modes, with a separator behind them or without one. -/
def preamble (m : Modes) (separated : Bool) (separates : separated → m.marks ≠ []) : Preamble where
  output := m.output.sigil?
  revert := m.revert.sigil?
  separator := if separated then some .separator else none
  isOutput := by cases m.output <;> simp [OutputMode.sigil?, Sigil.isOutput, Sigil.output?]
  isRevert := by cases m.revert <;> simp [RevertMode.sigil?, Sigil.isRevert, Sigil.revert?]
  isSeparator := by cases separated <;> simp [Sigil.isSeparator]
  separates := by
    intro h
    have hmarks := separates (by simpa using h)
    cases ho : m.output <;> cases hr : m.revert <;>
      simp_all [marks, OutputMode.marks, RevertMode.marks, OutputMode.sigil?, RevertMode.sigil?]

theorem modes_preamble {m : Modes} {separated : Bool} {separates : separated → m.marks ≠ []} :
    (m.preamble separated separates).modes = m := by
  rcases m with ⟨output, revert⟩
  cases output <;> cases revert <;> rfl

/-- The sigils of the preamble are the marks of the modes and the separator. -/
theorem map_char_preamble {m : Modes} {separated : Bool} {separates : separated → m.marks ≠ []} :
    (m.preamble separated separates).sigils.map Sigil.char =
      m.marks ++ if separated then [','] else [] := by
  have hmarks := Preamble.marks_modes (m.preamble separated separates)
  rw [modes_preamble] at hmarks
  rw [Preamble.sigils, List.map_append, ← hmarks]
  cases separated <;> rfl

/-- Characters that name modes are those of a preamble. -/
theorem exists_preamble {m : Modes} {cs : List Char} (h : m.IsWrittenAs cs) :
    ∃ p : Preamble, p.modes = m ∧ p.sigils.map Sigil.char = cs := by
  rcases h with rfl | ⟨hmarks, rfl⟩
  · exact ⟨m.preamble false nofun, modes_preamble, map_char_preamble.trans (List.append_nil _)⟩
  · exact ⟨m.preamble true fun _ => hmarks, modes_preamble, map_char_preamble⟩

/-! ## Reading -/

/-- The sigil for constant text is in front of sigils if its character is in front of theirs. -/
theorem isDisabled_map_sigil {constFormat : Bool} {sigils : List Sigil} :
    Leading.IsDisabled constFormat (sigils.map .sigil) ↔
      (sigils.map Sigil.char).head? = some '#' ∧ constFormat = false := by
  rw [Leading.IsDisabled]
  rcases sigils with _ | ⟨s, sigils⟩
  · simp
  · cases s <;> simp [Sigil.char]

/-- A text names modes if its characters without the blanks do, unless it starts with the sigil for
constant text while that is disabled. -/
theorem ofPrefix_eq_ok {constFormat : Bool} {shown text : String} {m : Modes} :
    ofPrefix constFormat shown text = .ok m ↔
      m.IsWrittenAs (Text.inked text) ∧
        ¬((Text.inked text).head? = some '#' ∧ constFormat = false) := by
  constructor
  · intro h
    rcases htokens : Sigil.tokenize text with e | sigils
    · rw [ofPrefix, htokens] at h
      cases h
    · obtain ⟨p, hp, hc, rfl⟩ := preamble_of_ofPrefix htokens h
      obtain rfl : sigils = p.sigils := (List.map_inj_right fun _ _ => Value.sigil.inj).mp hp
      rw [Sigil.tokenize_eq_ok.mp htokens, ← isDisabled_map_sigil]
      exact ⟨p.isWrittenAs, hc⟩
  · rintro ⟨hwritten, hc⟩
    obtain ⟨p, rfl, hp⟩ := exists_preamble hwritten
    rw [← hp, ← isDisabled_map_sigil] at hc
    -- There is no content, so nothing is left over.
    have hread : Leading.read constFormat (p.tokens ++ []) = .ok (Leading.ofPreamble p []) :=
      Leading.read_append p (by rwa [List.append_nil]) fun _ hv => by cases hv
    rw [List.append_nil] at hread
    rw [ofPrefix, Sigil.tokenize_eq_ok.mpr hp.symm]
    simp only [bind, Except.bind]
    rw [← Preamble.tokens, hread]
    rfl

theorem ofPrefix_of_tokenize_error {constFormat : Bool} {shown text : String} {e : SigilError}
    (h : Sigil.tokenize text = .error e) : ofPrefix constFormat shown text = .error e := by
  rw [ofPrefix, h]
  rfl

theorem ofPrefix_of_disabled {constFormat : Bool} {shown text : String} {sigils : List Sigil}
    (h : Sigil.tokenize text = .ok sigils)
    (hc : Leading.IsDisabled constFormat (sigils.map .sigil)) :
    ofPrefix constFormat shown text = .error .constFormatDisabled := by
  simp only [ofPrefix, h, bind, Except.bind, Leading.read_of_disabled hc]

/-- Sigils that are refused for another reason do not follow the grammar. -/
theorem errorClass_of_not_disabled {constFormat : Bool} {shown text : String}
    {sigils : List Sigil} {e : SigilError} (h : Sigil.tokenize text = .ok sigils)
    (hc : ¬Leading.IsDisabled constFormat (sigils.map .sigil))
    (he : ofPrefix constFormat shown text = .error e) : e.errorClass = .grammar := by
  simp only [ofPrefix, h, bind, Except.bind] at he
  rcases hread : Leading.read constFormat (sigils.map .sigil) with e' | l
  · rw [hread] at he
    obtain rfl := Except.error.inj he
    obtain ⟨p, rest, s, -, -, -, rfl⟩ := Leading.read_eq_error hread hc
    split <;> rfl
  · simp only [hread] at he
    split at he
    · obtain rfl := Except.error.inj he
      rfl
    · cases he

/-- A text is refused with one of two classes, and for constant text if it has no strange character
and starts with the sigil for that while it is disabled. -/
theorem ofPrefix_eq_error (constFormat : Bool) (shown text : String) :
    ((∃ e, ofPrefix constFormat shown text = .error e ∧ e.errorClass = .unsupportedMode) ↔
      (∀ c ∈ text.toList, Text.isBlank c ∨ c ∈ sigilChars) ∧
        (Text.inked text).head? = some '#' ∧ constFormat = false) ∧
    ∀ e, ofPrefix constFormat shown text = .error e →
      e.errorClass = .unsupportedMode ∨ e.errorClass = .grammar := by
  rw [← Sigil.exists_tokenize_eq_ok]
  rcases htokens : Sigil.tokenize text with e' | sigils
  · obtain ⟨c, -, rfl⟩ := Sigil.tokenize_eq_error.mp htokens
    simp [ofPrefix_of_tokenize_error htokens, SigilError.errorClass]
  · rw [Sigil.tokenize_eq_ok.mp htokens, ← isDisabled_map_sigil]
    by_cases hc : Leading.IsDisabled constFormat (sigils.map .sigil)
    · simp [ofPrefix_of_disabled htokens hc, hc, SigilError.errorClass]
    · have hclass : ∀ e, ofPrefix constFormat shown text = .error e → e.errorClass = .grammar :=
        fun e => errorClass_of_not_disabled htokens hc
      refine ⟨iff_of_false ?_ fun h => hc h.2, fun e he => .inr (hclass e he)⟩
      rintro ⟨e, he, hunsupported⟩
      rw [hclass e he] at hunsupported
      cases hunsupported

/-- Texts that differ in their blanks give the same modes or are refused alike. -/
theorem ofPrefix_of_inked_eq {constFormat : Bool} {shown shown' text text' : String}
    (h : Text.inked text = Text.inked text') :
    (ofPrefix constFormat shown text).mapError (fun e => (e.errorClass, e.subject?)) =
      (ofPrefix constFormat shown' text').mapError fun e => (e.errorClass, e.subject?) := by
  rcases htokens : Sigil.tokenize text with e | sigils
  · obtain ⟨c, hc, rfl⟩ := Sigil.tokenize_eq_error.mp htokens
    rw [← Text.find?_isStrange_inked, h, Text.find?_isStrange_inked] at hc
    have htokens' : Sigil.tokenize text' = .error (.unknown c text') :=
      Sigil.tokenize_eq_error.mpr ⟨c, hc, rfl⟩
    rw [ofPrefix_of_tokenize_error htokens, ofPrefix_of_tokenize_error htokens']
    rfl
  · have htokens' : Sigil.tokenize text' = .ok sigils :=
      Sigil.tokenize_eq_ok.mpr (h ▸ Sigil.tokenize_eq_ok.mp htokens)
    -- What is shown of a text stands only in the message about a sigil that is left over.
    simp only [ofPrefix, htokens, htokens', bind, Except.bind]
    rcases Leading.read constFormat (sigils.map .sigil) with e | ⟨output, revert, content⟩
    · rfl
    · rcases content with _ | ⟨v, content⟩
      · rfl
      · cases v <;> rfl

end Modes

/-- What the caller of a text sees: its modes, or the class of the error and what it is about. -/
def prefixOutcome (constFormat : Bool) (shown text : String) (c : Context) :
    Except (ErrorClass × Option Value) Modes :=
  ((readPrefix shown text (some constFormat)).run.run c).1.mapError fun e =>
    (e.errorClass, e.subject?)

/-- When it is said whether constant text may be made, nothing else is asked. -/
theorem result_readPrefix (constFormat : Bool) (shown text : String) (c : Context) :
    ((readPrefix shown text (some constFormat)).run.run c).1 =
      (Modes.ofPrefix constFormat shown text).mapError .sigil := by
  have henabled : ((mayBeConstant (some constFormat)).mapError PrefixError.settings).run.run c =
      (.ok constFormat, c) := by
    rw [InContext.run_mapError]
    rfl
  rcases htokens : Sigil.tokenize text with e | sigils
  · rw [Modes.ofPrefix_of_tokenize_error htokens]
    simp only [readPrefix, htokens, InContext.ofExcept_error, run_bind, run_throw]
    rfl
  · simp only [readPrefix, htokens, InContext.ofExcept_ok, pure_bind]
    rw [run_bind_ok henabled]
    rcases Modes.ofPrefix constFormat shown text with e | m
    · simp only [InContext.ofExcept_error, run_bind, run_throw]
      rfl
    · simp only [InContext.ofExcept_ok, pure_bind]
      rfl

theorem prefixOutcome_eq (constFormat : Bool) (shown text : String) (c : Context) :
    prefixOutcome constFormat shown text c =
      (Modes.ofPrefix constFormat shown text).mapError fun e => (e.errorClass, e.subject?) := by
  rw [prefixOutcome, result_readPrefix]
  rcases Modes.ofPrefix constFormat shown text with e | m <;> rfl

/-- The language of texts of sigils is exact. A text is split if it has only blanks and characters
of sigils, into the sigils of the latter in their order, and otherwise its first other character is
reported. It names modes if its characters without the blanks are their marks, with a separator
behind these or without one, unless it starts with the sigil for constant text while that is
disabled. It is refused for that if it could be split, and everything else is refused for the
grammar. Blanks make no difference anywhere. -/
theorem readPrefix_exact (constFormat : Bool) (shown text : String) (c : Context) :
    ((∃ sigils, Sigil.tokenize text = .ok sigils) ↔
      ∀ ch ∈ text.toList, Text.isBlank ch ∨ ch ∈ sigilChars) ∧
    (∀ sigils, Sigil.tokenize text = .ok sigils → sigils.map Sigil.char = Text.inked text) ∧
    (∀ e, Sigil.tokenize text = .error e → e.errorClass = .grammar ∧
      ∃ ch, text.toList.find? Text.isStrange = some ch ∧
        e.subject? = some (.text ch.toString)) ∧
    (∀ m : Modes, ((readPrefix shown text (some constFormat)).run.run c).1 = .ok m ↔
      m.IsWrittenAs (Text.inked text) ∧
        ¬((Text.inked text).head? = some '#' ∧ constFormat = false)) ∧
    ((∃ e, ((readPrefix shown text (some constFormat)).run.run c).1 = .error e ∧
        e.errorClass = .unsupportedMode) ↔
      (∀ ch ∈ text.toList, Text.isBlank ch ∨ ch ∈ sigilChars) ∧
        (Text.inked text).head? = some '#' ∧ constFormat = false) ∧
    (∀ e, ((readPrefix shown text (some constFormat)).run.run c).1 = .error e →
      e.errorClass = .unsupportedMode ∨ e.errorClass = .grammar) ∧
    ∀ (shown' text' : String) (c' : Context), Text.inked text' = Text.inked text →
      prefixOutcome constFormat shown' text' c' = prefixOutcome constFormat shown text c := by
  obtain ⟨hunsupported, hclass⟩ := Modes.ofPrefix_eq_error constFormat shown text
  simp only [result_readPrefix, mapError_eq_ok, mapError_eq_error]
  refine ⟨Sigil.exists_tokenize_eq_ok, fun sigils h => (Sigil.tokenize_eq_ok.mp h).symm, ?_,
    fun m => Modes.ofPrefix_eq_ok, ?_, ?_, ?_⟩
  · intro e he
    obtain ⟨ch, hch, rfl⟩ := Sigil.tokenize_eq_error.mp he
    exact ⟨rfl, ch, hch, rfl⟩
  · rw [← hunsupported]
    constructor
    · rintro ⟨-, ⟨e, he, rfl⟩, hunsupported⟩
      exact ⟨e, he, hunsupported⟩
    · rintro ⟨e, he, hunsupported⟩
      exact ⟨.sigil e, ⟨e, he, rfl⟩, hunsupported⟩
  · rintro - ⟨e, he, rfl⟩
    exact hclass e he
  · intro shown' text' c' h
    rw [prefixOutcome_eq, prefixOutcome_eq]
    exact Modes.ofPrefix_of_inked_eq h

/-- Blanks around marks, around the end of parameters, and in front of a sigil that is disabled. -/
theorem readPrefix_exact_spaced :
    ((readPrefix "" " @ *\t," (some false)).run.run {}).1 = .ok ⟨.string, .total⟩ ∧
      prefixOutcome false "" "@;*" {} = prefixOutcome false "" "@ ; *" {} ∧
      ∃ e, ((readPrefix "" " # ;" (some false)).run.run {}).1 = .error e ∧
        e.errorClass = .unsupportedMode := by
  obtain ⟨-, -, -, hmodes, -⟩ := readPrefix_exact false "" " @ *\t," {}
  obtain ⟨-, -, -, -, -, -, hblanks⟩ := readPrefix_exact false "" "@ ; *" {}
  obtain ⟨-, -, -, -, hunsupported, -⟩ := readPrefix_exact false "" " # ;" {}
  refine ⟨(hmodes _).mpr ⟨.inr ⟨by decide, rfl⟩, by decide⟩, hblanks "" "@;*" {} rfl, ?_⟩
  exact hunsupported.mpr ⟨Text.find?_isStrange_eq_none.mp rfl, rfl, rfl⟩

end Sgr
