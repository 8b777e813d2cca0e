import Sgr.CommandLine.Run
import Sgr.Proofs.Color.Spelling

/-!
# Hexadecimal and packed colours

A 24-bit colour has two numerical forms: a text of six hexadecimal digits behind `#`, two for each
component, and the number that its three bytes are packed in. The six digits are the digits of that
number, and a list of digits of a given length is fixed by its number, so either form gives the
colour back and every text that is read as a colour leads to one spelling of it, the lower-case one.

A hexadecimal text is no decimal number, whole or not: its mark ends the number before the text
ends. So the command line hands it on as a text.

## Main definitions

* `Color.nibbles` — the values of the six digits.

## Main statements

* `Number.mapM_hexDigit?_eq_some` — the lower-case spelling of digits.
* `Color.isHexNumber_hexText` — the text of a colour denotes its packed number.
* `Color.lower_eq_hexText` — six digits that denote it are those of the text.
* `CommandLine.readParam_of_isHexNumber` — a hexadecimal text stays a text.
* `Color.hex_roundTrip` — the forms of a colour and what they are read as.
-/

namespace Sgr

/-! ## Hexadecimal digits -/

namespace Number

theorem hexDigit?_digitChar {d : Nat} (h : d < 16) : hexDigit? (Nat.digitChar d) = some d := by
  have hall : ∀ d : Fin 16, hexDigit? (Nat.digitChar d) = some d.val := by
    decide
  exact hall ⟨d, h⟩

/-- A hexadecimal digit is, but for its case, the one that is written for its value. It is no white
space. -/
theorem hexDigit?_eq_some {c : Char} {d : Nat} (h : hexDigit? c = some d) :
    d < 16 ∧ Text.lowerChar c = Nat.digitChar d ∧ Text.isBlank c = false := by
  have hascii : ∀ k : Fin 128, ∀ d ∈ hexDigit? (Char.ofNat k),
      d < 16 ∧ Text.lowerChar (Char.ofNat k) = Nat.digitChar d ∧
        Text.isBlank (Char.ofNat k) = false := by
    decide
  have hbound {last : Char} (hlast : last.toNat < 128) (hc : c ≤ last) : c.toNat < 128 :=
    lt_of_le_of_lt (UInt32.le_iff_toNat_le.mp hc) hlast
  have hcode : c.toNat < 128 := by
    unfold hexDigit? at h
    split at h
    · next hdecimal => exact hbound (by decide) hdecimal.2
    · split at h
      · next hsmall => exact hbound (by decide) hsmall.2
      · split at h
        · next hcapital => exact hbound (by decide) hcapital.2
        · cases h
  have hc := hascii ⟨c.toNat, hcode⟩ d
  rw [Char.ofNat_toNat] at hc
  exact hc h

/-- Digits that have values are, but for their case, those that are written for the values. -/
theorem mapM_hexDigit?_eq_some {ds : List Char} {values : List Nat}
    (h : ds.mapM hexDigit? = some values) :
    (∀ d ∈ values, d < 16) ∧ ds.map Text.lowerChar = values.map Nat.digitChar ∧
      ∀ c ∈ ds, Text.isBlank c = false := by
  induction ds generalizing values with
  | nil =>
    cases h
    simp
  | cons c ds ih =>
    rw [List.mapM_cons] at h
    obtain ⟨d, hd, h⟩ := Option.bind_eq_some_iff.mp h
    obtain ⟨rest, hrest, h⟩ := Option.bind_eq_some_iff.mp h
    cases h
    obtain ⟨hlt, hlower, hblank⟩ := hexDigit?_eq_some hd
    obtain ⟨hlts, hlowers, hblanks⟩ := ih hrest
    exact ⟨List.forall_mem_cons.mpr ⟨hlt, hlts⟩, by simp [hlower, hlowers],
      List.forall_mem_cons.mpr ⟨hblank, hblanks⟩⟩

theorem mapM_hexDigit?_digitChars {values : List Nat} (h : ∀ d ∈ values, d < 16) :
    (values.map Nat.digitChar).mapM hexDigit? = some values := by
  induction values with
  | nil => rfl
  | cons d values ih =>
    obtain ⟨hd, hvalues⟩ := List.forall_mem_cons.mp h
    simp [List.mapM_cons, hexDigit?_digitChar hd, ih hvalues]

/-- A byte is written as two digits. -/
theorem toList_hexPadded_two {n : Nat} (h : n < 256) :
    (hexPadded 2 n).toList = [n / 16, n % 16].map Nat.digitChar := by
  rw [hexPadded, String.toList_ofList, digits, Nat.toDigits_eq_if (by decide)]
  by_cases hn : n < 16
  · have hzero : n / 16 = 0 := by omega
    rw [if_pos hn, hzero, Nat.mod_eq_of_lt hn]
    rfl
  · rw [if_neg hn, Nat.toDigits_of_lt_base (by omega)]
    rfl

end Number

namespace Color

/-! ## The text of a colour -/

/-- The values of the six digits of a 24-bit colour. -/
def nibbles (r g b : Fin 256) : List Nat :=
  [r.val, g.val, b.val].flatMap fun n => [n / 16, n % 16]

section Texts

variable (r g b : Fin 256)

theorem length_nibbles : (nibbles r g b).length = 6 :=
  rfl

theorem lt_of_mem_nibbles : ∀ d ∈ nibbles r g b, d < 16 := by
  intro d hd
  obtain ⟨n, hn, hd⟩ := List.mem_flatMap.mp hd
  have hbyte : n < 256 := by
    rcases List.mem_cons.mp hn with rfl | hn
    · exact r.isLt
    · rcases List.mem_cons.mp hn with rfl | hn
      · exact g.isLt
      · exact List.mem_singleton.mp hn ▸ b.isLt
  rcases List.mem_cons.mp hd with rfl | hd
  · omega
  · have := List.mem_singleton.mp hd
    omega

/-- The digits are those of the packed number. -/
theorem ofDigits_nibbles :
    Nat.ofDigits 16 (nibbles r g b).reverse = r.val * 65536 + g.val * 256 + b.val := by
  simp only [nibbles, List.flatMap_cons, List.flatMap_nil, List.cons_append, List.nil_append,
    List.reverse_cons, List.reverse_nil, Nat.ofDigits_cons, Nat.ofDigits_nil]
  omega

theorem toList_hexText :
    (hexText r g b).toList = ['#'] ++ (nibbles r g b).map Nat.digitChar := by
  simp only [hexText, String.toList_append, Number.toList_hexPadded_two (Fin.isLt _)]
  rfl

theorem isHexNumber_hexText :
    IsHexNumber (hexText r g b) (r.val * 65536 + g.val * 256 + b.val) := by
  refine ⟨['#'], by decide, _, nibbles r g b, toList_hexText r g b,
    Number.mapM_hexDigit?_digitChars (lt_of_mem_nibbles r g b), List.cons_ne_nil _ _, ?_⟩
  rw [if_neg (by rw [length_nibbles]; decide), ofDigits_nibbles]

end Texts

/-! ## Hexadecimal texts -/

variable {s : String} {n : Nat} {p : Plane}

theorem isBlank_of_isHexNumber (h : IsHexNumber s n) : ∀ c ∈ s.toList, Text.isBlank c = false := by
  have hmarks : ∀ mark ∈ hexMarks, mark.all (!Text.isBlank ·) := by
    decide
  obtain ⟨mark, hmark, ds, values, hs, hvalues, -⟩ := h
  rw [hs]
  exact List.forall_mem_append.mpr
    ⟨by simpa using hmarks mark hmark, (Number.mapM_hexDigit?_eq_some hvalues).2.2⟩

/-- A hexadecimal text is the colour that its number packs. -/
theorem ofHex_of_isHexNumber (h : IsHexNumber (Text.strip s) n) (p : Plane) :
    ofHex s p = ofPackedInt n p := by
  obtain ⟨ds, hds, rfl⟩ := isHexNumber_iff.mp h
  rw [Text.strip, String.toList_ofList] at hds
  simp only [ofHex, ofHexValue, hds]

theorem exists_of_ofHex {c : Color} (h : ofHex s p = .ok c) :
    ∃ n, IsHexNumber (Text.strip s) n ∧ IsPacked n p c := by
  unfold ofHex ofHexValue at h
  split at h
  · next ds hds =>
    refine ⟨_, isHexNumber_iff.mpr ⟨ds, ?_, rfl⟩, ofPackedInt_eq_ok.mp h⟩
    rw [Text.strip, String.toList_ofList, hds]
  · cases h

theorem strip_hexText (r g b : Fin 256) : Text.strip (hexText r g b) = hexText r g b :=
  Text.strip_of_forall (isBlank_of_isHexNumber (isHexNumber_hexText r g b))

/-- The text of a colour is read as the colour. -/
theorem ofHex_hexText (r g b : Fin 256) (p : Plane) :
    ofHex (hexText r g b) p = .ok (.rgb r g b p) := by
  have hnumber := isHexNumber_hexText r g b
  rw [← strip_hexText r g b] at hnumber
  rw [ofHex_of_isHexNumber hnumber]
  exact ofPackedInt_eq_ok.mpr ⟨r, g, b, rfl, rfl⟩

/-- Six digits behind `#` are those of the text of their colour, in any case. -/
theorem lower_eq_hexText {r g b : Fin 256} {ds : List Char}
    (h : IsHexNumber s (r.val * 65536 + g.val * 256 + b.val)) (hs : s.toList = '#' :: ds)
    (hlength : ds.length = 6) : Text.lower s = hexText r g b := by
  obtain ⟨mark, hmark, ds', values, hs', hvalues, -, hn⟩ := h
  obtain rfl : ds' = ds := by
    rw [hs] at hs'
    rcases exists_hexMark_iff.mp ⟨mark, hmark, hs'⟩ with h | h | h
    · exact (List.cons.inj h).2.symm
    · cases h
    · cases h
  obtain ⟨hlt, hlower, -⟩ := Number.mapM_hexDigit?_eq_some hvalues
  have hsix : values.length = 6 := (Number.length_of_mapM hvalues).trans hlength
  rw [if_neg (by omega), ← ofDigits_nibbles] at hn
  -- Two lists of six digits with one number are the same.
  have hdigits : nibbles r g b = values := by
    refine List.reverse_injective (Nat.ofDigits_inj_of_len_eq (by decide) ?_ ?_ ?_ hn)
    · rw [List.length_reverse, List.length_reverse, length_nibbles, hsix]
    · simpa using lt_of_mem_nibbles r g b
    · simpa using hlt
  refine String.toList_inj.mp ?_
  rw [toList_hexText, hdigits, ← hlower, Text.lower, String.toList_ofList, hs]
  rfl

end Color

/-! ## Hexadecimal texts as parameters -/

namespace Number

variable {s : String} {n : Nat}

theorem skipBlanks_of_forall {cs : List Char} (h : ∀ c ∈ cs, Text.isBlank c = false) :
    skipBlanks cs = cs :=
  Text.dropWhile_of_forall fun c hc => by rw [isNumberBlank, h c hc, Bool.false_and]

/-- The mark of a hexadecimal text is no part of a whole number. -/
theorem readInt_of_isHexNumber (h : Color.IsHexNumber s n) : readInt s = .error .malformed := by
  have hskip := skipBlanks_of_forall (Color.isBlank_of_isHexNumber h)
  obtain ⟨ds, hs | hs | hs⟩ := Color.exists_cons_of_isHexNumber h
  all_goals
    rw [readInt, hskip, hs]
    rfl

/-- Where the characters of a number begin with a mark there is no number: nothing comes before `#`,
and after the zero of the other marks comes neither a point nor an exponent. -/
theorem readDouble?_of_mark {cs r : List Char}
    (hcs : ((skipBlanks (skipBlanks s.toList).reverse).reverse.map plainDigit).filter (· ≠ '_') =
      cs)
    (h : cs = '#' :: r ∨ cs = '0' :: 'x' :: r ∨ cs = '0' :: 'X' :: r) : readDouble? s = none := by
  have hsign : readSign cs = (false, cs) := by
    rcases h with rfl | rfl | rfl <;> rfl
  have hdecimal : readDecimal? false cs = none := by
    rcases h with rfl | rfl | rfl <;> rfl
  have hfirst : (cs.map Char.toLower).head?.all Char.isLower = false := by
    rcases h with rfl | rfl | rfl <;> rfl
  have hword {w : String} (hw : w.toList.head?.all Char.isLower) :
      String.ofList (cs.map Char.toLower) ≠ w := by
    rintro rfl
    rw [String.toList_ofList, hfirst] at hw
    cases hw
  simp only [readDouble?, hcs, hsign]
  split
  · rfl
  · split
    · next hnan => exact absurd hnan (hword (by decide))
    · next hinf => exact absurd hinf (hword (by decide))
    · next hinfinity => exact absurd hinfinity (hword (by decide))
    · exact hdecimal

theorem readDouble?_of_isHexNumber (h : Color.IsHexNumber s n) : readDouble? s = none := by
  have hblank := Color.isBlank_of_isHexNumber h
  have hskip : (skipBlanks (skipBlanks s.toList).reverse).reverse = s.toList := by
    rw [skipBlanks_of_forall hblank, skipBlanks_of_forall (by simpa using hblank),
      List.reverse_reverse]
  obtain ⟨ds, hs⟩ := Color.exists_cons_of_isHexNumber h
  refine readDouble?_of_mark (r := (ds.map plainDigit).filter (· ≠ '_')) rfl ?_
  rw [hskip]
  rcases hs with hs | hs | hs
  · exact .inl (by rw [hs]; rfl)
  · exact .inr (.inl (by rw [hs]; rfl))
  · exact .inr (.inr (by rw [hs]; rfl))

end Number

/-- On the command line a hexadecimal text stays a text. -/
theorem CommandLine.readParam_of_isHexNumber {s : String} {n : Nat} (h : Color.IsHexNumber s n) :
    readParam s = .text s := by
  rw [readParam, Number.readInt_of_isHexNumber h, Number.readDouble?_of_isHexNumber h]

/-! ## The forms of a colour -/

namespace Color

/-- An integer outside the range of packed colours is refused, and the error names it. -/
theorem exists_ofPackedValue_iff (n : Int) (p : Plane) :
    ((∃ c, ofPackedValue (.int n) p = .ok c) ↔ 0 ≤ n ∧ n ≤ 0xFFFFFF) ∧
    ∀ e, ofPackedValue (.int n) p = .error e →
      e.errorClass = .colorRange ∧ e.subject? = some (.int n) := by
  have hread : ofPackedValue (.int n) p = ofPackedInt n p := rfl
  rw [hread, ofPackedInt]
  have hmax : (maxPacked : Int) = 0xFFFFFF := rfl
  rw [hmax]
  split
  · next hrange => exact ⟨iff_of_true ⟨_, rfl⟩ hrange, fun e he => by cases he⟩
  · next hrange =>
    refine ⟨iff_of_false (fun ⟨c, hc⟩ => by cases hc) hrange, fun e he => ?_⟩
    cases he
    exact ⟨rfl, rfl⟩

/-- The text and the packed number of a 24-bit colour are read as that colour, on any plane. Only the
numbers of colours are read, and the error for another one names it. Whatever hexadecimal text a
colour was read from, its own text is read as the colour again, and differs from six digits behind
`#` in case only. The command line keeps a hexadecimal text that has no blanks around it. -/
theorem hex_roundTrip :
    (∀ (r g b : Fin 256) (q p : Plane),
      ofHex (hexText r g b) p = .ok ((Color.rgb r g b q).onPlane p) ∧
      ofPackedValue (.int (r.val * 65536 + g.val * 256 + b.val : Nat)) p =
        .ok ((Color.rgb r g b q).onPlane p) ∧
      readValue (.text (hexText r g b)) p = .ok (.color ((Color.rgb r g b q).onPlane p))) ∧
    (∀ (n : Int) (p : Plane),
      ((∃ c, ofPackedValue (.int n) p = .ok c) ↔ 0 ≤ n ∧ n ≤ 0xFFFFFF) ∧
      ∀ e, ofPackedValue (.int n) p = .error e →
        e.errorClass = .colorRange ∧ e.subject? = some (.int n)) ∧
    ∀ (s : String) (p : Plane) (c : Color), ofHex s p = .ok c →
      ∃ r g b, c = .rgb r g b p ∧ ofHex (hexText r g b) p = .ok c ∧
        (∀ ds, (Text.strip s).toList = '#' :: ds → ds.length = 6 →
          hexText r g b = Text.lower (Text.strip s)) ∧
        (Text.strip s = s → CommandLine.readParam s = .text s) := by
  refine ⟨fun r g b q p => ⟨ofHex_hexText r g b p, ?_, ?_⟩, exists_ofPackedValue_iff,
    fun s p c h => ?_⟩
  · exact ofPackedInt_eq_ok.mpr ⟨r, g, b, rfl, rfl⟩
  · have hnumber := isHexNumber_hexText r g b
    rw [← strip_hexText r g b] at hnumber
    rw [readValue_of_text? rfl, ofText_of_isHexNumber hnumber,
      ofPackedInt_eq_ok.mpr ⟨r, g, b, rfl, rfl⟩]
    rfl
  · obtain ⟨n, hn, r, g, b, rfl, rfl⟩ := exists_of_ofHex h
    refine ⟨r, g, b, rfl, ofHex_hexText r g b p, fun ds hs hlength => ?_, fun hstrip => ?_⟩
    · exact (lower_eq_hexText hn hs hlength).symm
    · exact CommandLine.readParam_of_isHexNumber (hstrip ▸ hn)

/-- Two digits for each component, also where it is small. -/
example : hexText 0 10 255 = "#000aff" := by
  decide

end Color

end Sgr
