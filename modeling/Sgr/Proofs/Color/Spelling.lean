import Sgr.Color.Reading
import Sgr.Proofs.Blank
import Sgr.Proofs.Numeral
import Sgr.Proofs.Running

/-!
# The spellings of colours

A text spells a colour in one of three ways: by hexadecimal digits behind a mark, by decimal digits,
or by name. Each way is described here by what the text is made of, without regard to how it is
read. Reading tries the ways one after the other, with tests that are not the descriptions: the test
for decimal digits also lets others pass. What keeps the order from mattering is the first
character: it is a mark's, a digit, or a letter, and no way can begin as another does.

## Main definitions

* `Color.IsHexNumber`, `Color.IsName` — a hexadecimal number behind its mark, and the name of a
  basic colour.
* `Color.Spelling`, `Color.Spelling.Gives` — the three ways, and the colour that a text spells in
  each.

## Main statements

* `Color.isHexNumber_iff` — the digits behind a mark.
* `Color.ofPackedInt_eq_ok` — a packed number is red, green and blue.
* `Color.Spelling.Fits.unique` — no text is spelt in two ways.
* `Color.readValue_spelling` — the texts that are read are those that spell a colour.
-/

namespace Sgr

/-! ## Letter case -/

namespace Text

/-- A digit is no letter, of either case. -/
theorem lowerChar_of_isDigit {c : Char} (h : isDigit c) :
    lowerChar c = c ∧ c.isLower = false := by
  have hletters : ∀ b ∈ [(0x41, 0x5A), (0x61, 0x7A), (0x212A, 0x212A)],
      ∀ r ∈ Number.digitRanges, b.2 < r.1 ∨ r.2 < b.1 := by
    decide
  obtain ⟨r, hr, hrange⟩ := Number.exists_range_of_isDigit h
  have hcode : (c.toNat < 0x41 ∨ 0x5A < c.toNat) ∧ (c.toNat < 0x61 ∨ 0x7A < c.toNat) ∧
      c.toNat ≠ 0x212A := by
    have hcapital := hletters (0x41, 0x5A) (by decide) r hr
    have hsmall := hletters (0x61, 0x7A) (by decide) r hr
    have hkelvin := hletters (0x212A, 0x212A) (by decide) r hr
    omega
  have hkelvin : c ≠ '\u212a' := by
    rintro rfl
    exact hcode.2.2 rfl
  have hval : c.val.toNat = c.toNat := rfl
  have hupper : ¬(c.val ≥ 'A'.val ∧ c.val ≤ 'Z'.val) := by
    simp only [ge_iff_le, UInt32.le_iff_toNat_le, Char.reduceVal, UInt32.reduceToNat]
    omega
  have hlower : ¬(c.val ≥ 'a'.val ∧ c.val ≤ 'z'.val) := by
    simp only [ge_iff_le, UInt32.le_iff_toNat_le, Char.reduceVal, UInt32.reduceToNat]
    omega
  refine ⟨(if_neg hkelvin).trans (dif_neg hupper), Bool.eq_false_iff.mpr fun h => hlower ?_⟩
  exact (Bool.and_eq_true_iff.mp h).imp of_decide_eq_true of_decide_eq_true

end Text

namespace Color

/-! ## Packed numbers -/

/-- The colour whose red, green and blue are packed in a number. -/
def IsPacked (n : Nat) (p : Plane) (c : Color) : Prop :=
  ∃ r g b : Fin 256, c = .rgb r g b p ∧ r.val * 65536 + g.val * 256 + b.val = n

/-- The colour of a number: an entry of the palette up to 255, and red, green and blue beyond. -/
def IsNumbered (n : Nat) (p : Plane) (c : Color) : Prop :=
  if n ≤ 255 then ∃ i : Fin 256, c = .indexed i p ∧ i.val = n else IsPacked n p c

variable {p : Plane} {c : Color} {n : Nat}

/-- A packed number is read as its three bytes. -/
theorem ofPackedInt_eq_ok : ofPackedInt n p = .ok c ↔ IsPacked n p c := by
  unfold ofPackedInt
  constructor
  · intro h
    split at h
    · next hrange =>
      cases h
      refine ⟨byteOfNat (n / 65536), byteOfNat (n / 256), byteOfNat n, rfl, ?_⟩
      simp only [byteOfNat, Fin.val_ofNat, maxPacked] at hrange ⊢
      omega
    · cases h
  · rintro ⟨r, g, b, rfl, hn⟩
    have hbytes : byteOfNat (n / 65536) = r ∧ byteOfNat (n / 256) = g ∧ byteOfNat n = b := by
      simp only [byteOfNat, Fin.ext_iff, Fin.val_ofNat]
      omega
    rw [if_pos (by rw [maxPacked]; omega), ofPacked, Int.toNat_natCast, hbytes.1, hbytes.2.1,
      hbytes.2.2]

theorem ofInt_eq_ok : ofInt n p = .ok c ↔ IsNumbered n p c := by
  have hsign : ¬((n : Int) < 0) := by omega
  rw [ofInt, if_neg hsign, IsNumbered]
  by_cases hn : n ≤ 255
  · rw [dif_pos (by omega), if_pos hn]
    constructor
    · intro h
      cases h
      exact ⟨_, rfl, Int.toNat_natCast n⟩
    · rintro ⟨i, rfl, hi⟩
      congr 2
      exact Fin.ext (by simpa using hi.symm)
  · rw [dif_neg (by omega), if_neg hn, ofPackedInt_eq_ok]

/-! ## Hexadecimal texts -/

/-- The marks that stand in front of hexadecimal digits. -/
def hexMarks : List (List Char) :=
  [['#'], ['0', 'x'], ['0', 'X']]

/-- A text is a mark and at least one hexadecimal digit, and denotes a number. Three digits count
twice, each of them. -/
def IsHexNumber (t : String) (n : Nat) : Prop :=
  ∃ mark ∈ hexMarks, ∃ ds values, t.toList = mark ++ ds ∧ ds.mapM Number.hexDigit? = some values ∧
    values ≠ [] ∧
      n = Nat.ofDigits 16
        (if values.length = 3 then values.flatMap fun d => [d, d] else values).reverse

theorem exists_hexMark_iff {cs ds : List Char} :
    (∃ mark ∈ hexMarks, cs = mark ++ ds) ↔
      cs = '#' :: ds ∨ cs = '0' :: 'x' :: ds ∨ cs = '0' :: 'X' :: ds := by
  simp [hexMarks]

/-- The digits behind a mark are all hexadecimal, and there is one. -/
theorem hexDigits?_eq_some {cs ds : List Char} :
    hexDigits? cs = some ds ↔
      (∃ mark ∈ hexMarks, cs = mark ++ ds) ∧ ds ≠ [] ∧ ∀ d ∈ ds, (Number.hexDigit? d).isSome := by
  rw [exists_hexMark_iff]
  unfold hexDigits?
  rw [Option.filter_eq_some_iff]
  refine and_congr ?_ (by simp)
  split
  · simp
  · simp
  · simp
  · next hhash hlow hup =>
    refine iff_of_false (by simp) ?_
    rintro (rfl | rfl | rfl)
    · exact hhash ds rfl
    · exact hlow ds rfl
    · exact hup ds rfl

theorem mapM_twice {α β : Type} {f : α → Option β} {xs : List α} {ys : List β}
    (h : xs.mapM f = some ys) :
    (xs.flatMap fun x => [x, x]).mapM f = some (ys.flatMap fun y => [y, y]) := by
  induction xs generalizing ys with
  | nil =>
    cases h
    rfl
  | cons x xs ih =>
    rw [List.mapM_cons] at h
    obtain ⟨y, hy, h⟩ := Option.bind_eq_some_iff.mp h
    obtain ⟨rest, hrest, h⟩ := Option.bind_eq_some_iff.mp h
    cases h
    simp [List.mapM_cons, hy, ih hrest]

/-- The packed number of digits is their value. -/
theorem packedOfDigits_eq {ds : List Char} {values : List Nat} (hne : values ≠ [])
    (h : ds.mapM Number.hexDigit? = some values) :
    packedOfDigits ds = Nat.ofDigits 16
      (if values.length = 3 then values.flatMap fun d => [d, d] else values).reverse := by
  have hvalue {ds : List Char} {values : List Nat} (hne : values ≠ [])
      (h : ds.mapM Number.hexDigit? = some values) :
      (Number.hexValue? ds).getD 0 = Nat.ofDigits 16 values.reverse := by
    have hds : ds.isEmpty = false :=
      List.isEmpty_eq_false_iff.mpr ((Number.ne_nil_iff_of_mapM h).mp hne)
    simp [Number.hexValue?, hds, h, Number.ofDigitValues_eq]
  unfold packedOfDigits
  rw [← Number.length_of_mapM h]
  split
  · next hthree =>
    refine hvalue (fun hnil => ?_) (mapM_twice h)
    have hlength := congrArg List.length hnil
    simp [hthree] at hlength
  · exact hvalue hne h

theorem isHexNumber_iff {t : String} :
    IsHexNumber t n ↔ ∃ ds, hexDigits? t.toList = some ds ∧ n = packedOfDigits ds := by
  constructor
  · rintro ⟨mark, hmark, ds, values, ht, hvalues, hne, rfl⟩
    refine ⟨ds, hexDigits?_eq_some.mpr ⟨⟨mark, hmark, ht⟩, ?_, fun d hd => ?_⟩,
      (packedOfDigits_eq hne hvalues).symm⟩
    · exact (Number.ne_nil_iff_of_mapM hvalues).mp hne
    · by_contra hnone
      rw [Number.mapM_eq_none_iff.mpr ⟨d, hd, by simpa using hnone⟩] at hvalues
      cases hvalues
  · rintro ⟨ds, hds, rfl⟩
    obtain ⟨⟨mark, hmark, ht⟩, hne, hall⟩ := hexDigits?_eq_some.mp hds
    rcases hvalues : ds.mapM Number.hexDigit? with _ | values
    · obtain ⟨d, hd, hnone⟩ := Number.mapM_eq_none_iff.mp hvalues
      simpa [hnone] using hall d hd
    · have hne' : values ≠ [] := (Number.ne_nil_iff_of_mapM hvalues).mpr hne
      exact ⟨mark, hmark, ds, values, ht, hvalues, hne', packedOfDigits_eq hne' hvalues⟩

theorem IsHexNumber.unique {t : String} {m : Nat} (h : IsHexNumber t n) (h' : IsHexNumber t m) :
    n = m := by
  obtain ⟨ds, hds, rfl⟩ := isHexNumber_iff.mp h
  obtain ⟨_, hds', rfl⟩ := isHexNumber_iff.mp h'
  rw [Option.some.inj (hds.symm.trans hds')]

theorem hexDigits?_isSome {t : String} :
    (hexDigits? t.toList).isSome ↔ ∃ n, IsHexNumber t n := by
  simp [isHexNumber_iff, Option.isSome_iff_exists]

/-! ## Names -/

/-- A text is the name of a basic colour, behind the word `bright` for a bright one. -/
def IsName (t : String) (base : Fin 8) (bright : Bool) : Prop :=
  Text.words (Text.lower t) = (if bright then ["bright"] else []) ++ [baseColorName base]

theorem baseOf?_eq_some {name : String} {base : Fin 8} :
    baseOf? name = some base ↔ name = baseColorName base := by
  constructor
  · intro h
    obtain ⟨i, hi, rfl⟩ := Option.map_eq_some_iff.mp h
    have hname := (List.findFinIdx?_eq_some_iff.mp hi).1
    exact (of_decide_eq_true hname).symm
  · rintro rfl
    have hall : ∀ base, baseOf? (baseColorName base) = some base := by
      decide
    exact hall base

theorem ofWords?_eq_some {words : List String} :
    ofWords? p words = some c ↔
      ∃ base bright, words = (if bright then ["bright"] else []) ++ [baseColorName base] ∧
        c = .basic base bright p := by
  constructor
  · intro h
    unfold ofWords? at h
    split at h
    · obtain ⟨base, hbase, rfl⟩ := Option.map_eq_some_iff.mp h
      exact ⟨base, false, by rw [baseOf?_eq_some.mp hbase]; rfl, rfl⟩
    · obtain ⟨base, hbase, rfl⟩ := Option.map_eq_some_iff.mp h
      exact ⟨base, true, by rw [baseOf?_eq_some.mp hbase]; rfl, rfl⟩
    · cases h
  · rintro ⟨base, bright, rfl, rfl⟩
    have hbase : baseOf? (baseColorName base) = some base := baseOf?_eq_some.mpr rfl
    cases bright <;> simp [ofWords?, hbase]

theorem ofName_eq_ok {s : String} :
    ofName s p = .ok c ↔ ∃ base bright, IsName s base bright ∧ c = .basic base bright p := by
  simp only [IsName, ← ofWords?_eq_some, ofName]
  split
  · next h => simp [h]
  · next h => simp [h]

/-! ## Beginnings -/

/-- A name does not begin with a character other than a letter or a blank. -/
theorem not_isName_of_cons {t : String} {x : Char} {r : List Char} (ht : t.toList = x :: r)
    (hblank : Text.isBlank (Text.lowerChar x) = false)
    (hletter : (Text.lowerChar x).isLower = false) (base : Fin 8) (bright : Bool) :
    ¬IsName t base bright := by
  intro hname
  have hinitial : ∀ w ∈ "bright" :: baseColorNames, w.toList.head?.all Char.isLower := by
    decide
  obtain ⟨w, ws, hwords⟩ := Text.exists_wordChars_cons hblank (r.map Text.lowerChar)
  have hfirst : String.ofList (Text.lowerChar x :: w) ∈ "bright" :: baseColorNames := by
    have hlower : (Text.lower t).toList = Text.lowerChar x :: r.map Text.lowerChar := by
      rw [Text.lower, String.toList_ofList, ht, List.map_cons]
    have hlist : String.ofList (Text.lowerChar x :: w) :: ws.map String.ofList =
        (if bright then ["bright"] else []) ++ [baseColorName base] := by
      rw [← hname, Text.words, hlower, hwords, List.map_cons]
    have hbase : baseColorName base ∈ baseColorNames := List.getElem_mem _
    cases bright with
    | true => exact List.mem_cons.mpr (.inl (List.cons.inj hlist).1)
    | false => exact List.mem_cons_of_mem _ ((List.cons.inj hlist).1 ▸ hbase)
  simpa [hletter] using hinitial _ hfirst

/-- A mark begins with `#` or `0`, and an `x` behind that. -/
theorem exists_cons_of_isHexNumber {t : String} (h : IsHexNumber t n) :
    ∃ ds, t.toList = '#' :: ds ∨ t.toList = '0' :: 'x' :: ds ∨ t.toList = '0' :: 'X' :: ds := by
  obtain ⟨mark, hmark, ds, -, ht, -⟩ := h
  exact ⟨ds, exists_hexMark_iff.mp ⟨mark, hmark, ht⟩⟩

theorem not_isDigits_of_isHexNumber {t : String} (h : IsHexNumber t n) :
    ¬Text.isDigits t := by
  have hmarks : Text.isDigit '#' = false ∧ Text.isDigit 'x' = false ∧ Text.isDigit 'X' = false := by
    decide
  obtain ⟨ds, ht | ht | ht⟩ := exists_cons_of_isHexNumber h <;> simp [Text.isDigits, ht, hmarks]

theorem not_isName_of_isHexNumber {t : String} (h : IsHexNumber t n) (base : Fin 8)
    (bright : Bool) : ¬IsName t base bright := by
  obtain ⟨ds, ht | ht | ht⟩ := exists_cons_of_isHexNumber h
  all_goals exact not_isName_of_cons ht (by decide) (by decide) base bright

theorem not_isName_of_isDigits {t : String} (h : Text.isDigits t) (base : Fin 8) (bright : Bool) :
    ¬IsName t base bright := by
  obtain ⟨hne, hall⟩ := (Bool.and_eq_true ..).mp h
  rcases ht : t.toList with _ | ⟨x, r⟩
  · simp [ht] at hne
  · have hx : Text.isDigit x := by
      rw [ht] at hall
      exact List.all_eq_true.mp hall x List.mem_cons_self
    obtain ⟨hlower, hletter⟩ := Text.lowerChar_of_isDigit hx
    refine not_isName_of_cons ht ?_ ?_ base bright
    · rw [hlower, Number.isBlank_of_isDigit hx]
    · rw [hlower, hletter]

/-! ## Reading texts -/

variable {s : String}

theorem ofText_of_isHexNumber (h : IsHexNumber (Text.strip s) n) (p : Plane) :
    ofText s p = ofPackedInt n p := by
  obtain ⟨ds, hds, rfl⟩ := isHexNumber_iff.mp h
  simp only [ofText, ofHex, ofHexValue, Text.stripChars_strip, hds, Option.isSome_some, if_true]

theorem hexDigits?_of_isDigits {t : String} (h : Text.isDigits t) :
    ¬(hexDigits? t.toList).isSome := by
  intro hsome
  obtain ⟨n, hn⟩ := hexDigits?_isSome.mp hsome
  exact not_isDigits_of_isHexNumber hn h

theorem ofText_of_readInt {i : Int} (h : Text.isDigits (Text.strip s))
    (hread : Number.readInt (Text.strip s) = .ok i) (p : Plane) : ofText s p = ofInt i p := by
  simp only [ofText, if_neg (hexDigits?_of_isDigits h), if_pos h, hread]

theorem ofText_of_unreadable {f : Number.IntFault} (h : Text.isDigits (Text.strip s))
    (hread : Number.readInt (Text.strip s) = .error f) (p : Plane) :
    ofText s p = .error (.unreadable (Text.strip s) f) := by
  simp only [ofText, if_neg (hexDigits?_of_isDigits h), if_pos h, hread]

theorem ofText_of_neither (hhex : ¬∃ n, IsHexNumber (Text.strip s) n)
    (hdigits : ¬Text.isDigits (Text.strip s)) (p : Plane) :
    ofText s p = ofName (Text.strip s) p := by
  simp only [ofText]
  rw [if_neg (mt hexDigits?_isSome.mp hhex), if_neg hdigits]

/-! ## The three ways -/

/-- The ways to spell a colour. -/
inductive Spelling where
  | hex
  | decimal
  | name
  deriving DecidableEq, Repr, Inhabited

namespace Spelling

/-- Whether a text, without blanks around it, is of the kind that a way asks for. It may still have
a number that is too great, or digits that are no number. -/
def Fits (t : String) : Spelling → Prop
  | hex => ∃ n, IsHexNumber t n
  | decimal => Text.isDigits t
  | name => ∃ base bright, IsName t base bright

/-- The colour that a text, without blanks around it, spells in a way. -/
def Gives (t : String) (p : Plane) : Spelling → Color → Prop
  | hex, c => ∃ n, IsHexNumber t n ∧ IsPacked n p c
  | decimal, c => ∃ n, Number.IsDecimal t n ∧ IsNumbered n p c
  | name, c => ∃ base bright, IsName t base bright ∧ c = .basic base bright p

variable {t : String} {k l : Spelling}

theorem Gives.fits (h : k.Gives t p c) : k.Fits t := by
  cases k with
  | hex =>
    obtain ⟨n, hn, -⟩ := h
    exact ⟨n, hn⟩
  | decimal =>
    obtain ⟨n, hn, -⟩ := h
    exact (Number.isDecimal_iff.mp hn).1
  | name =>
    obtain ⟨base, bright, hname, -⟩ := h
    exact ⟨base, bright, hname⟩

/-- No text is of two kinds. -/
theorem Fits.unique (h : k.Fits t) (h' : l.Fits t) : k = l := by
  have hnumbers : hex.Fits t → ¬decimal.Fits t := fun ⟨_, hn⟩ =>
    not_isDigits_of_isHexNumber hn
  have hmarked : hex.Fits t → ¬name.Fits t := fun ⟨_, hn⟩ ⟨base, bright, hname⟩ =>
    not_isName_of_isHexNumber hn base bright hname
  have hdigits : decimal.Fits t → ¬name.Fits t := fun hdecimal ⟨base, bright, hname⟩ =>
    not_isName_of_isDigits hdecimal base bright hname
  cases k with
  | hex =>
    cases l with
    | hex => rfl
    | decimal => exact absurd h' (hnumbers h)
    | name => exact absurd h' (hmarked h)
  | decimal =>
    cases l with
    | hex => exact absurd h (hnumbers h')
    | decimal => rfl
    | name => exact absurd h' (hdigits h)
  | name =>
    cases l with
    | hex => exact absurd h (hmarked h')
    | decimal => exact absurd h (hdigits h')
    | name => rfl

end Spelling

/-- The colour of a text is the one that it spells. -/
theorem ofText_eq_ok :
    ofText s p = .ok c ↔ ∃ k : Spelling, k.Gives (Text.strip s) p c := by
  -- Each test of the reading fixes the way, so only that way has to be compared with it.
  have only {k : Spelling} (hfits : k.Fits (Text.strip s)) :
      (∃ l : Spelling, l.Gives (Text.strip s) p c) ↔ k.Gives (Text.strip s) p c :=
    ⟨fun ⟨_, h⟩ => Spelling.Fits.unique h.fits hfits ▸ h, fun h => ⟨k, h⟩⟩
  by_cases hhex : ∃ n, IsHexNumber (Text.strip s) n
  · rw [only (k := .hex) hhex]
    obtain ⟨n, hn⟩ := hhex
    rw [ofText_of_isHexNumber hn, ofPackedInt_eq_ok]
    constructor
    · exact fun h => ⟨n, hn, h⟩
    · rintro ⟨m, hm, h⟩
      rwa [IsHexNumber.unique hn hm]
  · by_cases hdigits : Text.isDigits (Text.strip s)
    · rw [only (k := .decimal) hdigits]
      constructor
      · intro h
        rcases hread : Number.readInt (Text.strip s) with f | i
        · rw [ofText_of_unreadable hdigits hread] at h
          cases h
        · obtain ⟨n, rfl, hn⟩ := Number.exists_isDecimal_of_readInt hdigits hread
          rw [ofText_of_readInt hdigits hread] at h
          exact ⟨n, hn, ofInt_eq_ok.mp h⟩
      · rintro ⟨n, hn, h⟩
        rw [ofText_of_readInt hdigits (Number.isDecimal_iff.mp hn).2]
        exact ofInt_eq_ok.mpr h
    · rw [ofText_of_neither hhex hdigits, ofName_eq_ok]
      constructor
      · exact fun h => ⟨.name, h⟩
      · rintro ⟨k, hk⟩
        cases k with
        | hex => exact absurd hk.fits hhex
        | decimal => exact absurd hk.fits hdigits
        | name => exact hk

theorem readValue_of_text? {v : Value} (hv : v.text? = some s) (p : Plane) :
    readValue v p = (ofText s p).map .color := by
  cases v with
  | text | sigil =>
    cases hv
    rfl
  | _ => cases hv

/-- A text is read as a colour if it spells one, and as no other. There are three ways to do so, of
which no text allows two, whatever number it has; the digits of the second are those that pass as
digits and can be read. -/
theorem readValue_spelling {v : Value} (hv : v.text? = some s) (p : Plane) :
    (∀ r, readValue v p = .ok r ↔
      ∃ k : Spelling, ∃ c, k.Gives (Text.strip s) p c ∧ r = .color c) ∧
    ((∃ r, readValue v p = .ok r) ↔ ∃! k : Spelling, ∃ c, k.Gives (Text.strip s) p c) ∧
    (∀ t (k l : Spelling), k.Fits t → l.Fits t → k = l) ∧
    ∀ t n, Number.IsDecimal t n ↔ Text.isDigits t ∧ Number.readInt t = .ok (n : Int) := by
  have hread (r : Value) : readValue v p = .ok r ↔
      ∃ k : Spelling, ∃ c, k.Gives (Text.strip s) p c ∧ r = .color c := by
    rw [readValue_of_text? hv]
    constructor
    · intro h
      obtain ⟨c, hc, rfl⟩ := exists_of_map_ok h
      obtain ⟨k, hk⟩ := ofText_eq_ok.mp hc
      exact ⟨k, c, hk, rfl⟩
    · rintro ⟨k, c, hk, rfl⟩
      rw [ofText_eq_ok.mpr ⟨k, hk⟩]
      rfl
  refine ⟨hread, ?_, fun _ _ _ => Spelling.Fits.unique, fun _ _ => Number.isDecimal_iff⟩
  constructor
  · rintro ⟨r, hr⟩
    obtain ⟨k, c, hk, -⟩ := (hread r).mp hr
    exact ⟨k, ⟨c, hk⟩, fun l ⟨_, hl⟩ => Spelling.Fits.unique hl.fits hk.fits⟩
  · rintro ⟨k, ⟨c, hk⟩, -⟩
    exact ⟨.color c, (hread _).mpr ⟨k, c, hk, rfl⟩⟩

/-- Three digits with a mark are all doubled. -/
theorem readValue_spelling_short :
    readValue (.text " 0Xf0A\n") .background = .ok (.color (.rgb 255 0 170 .background)) := by
  refine ((readValue_spelling (v := .text " 0Xf0A\n") rfl .background).1 _).mpr
    ⟨.hex, _, ⟨0xFF00AA, ⟨['0', 'X'], by decide, ['f', '0', 'A'], [15, 0, 10], ?_⟩, ?_⟩, rfl⟩
  · decide
  · exact ⟨255, 0, 170, rfl, rfl⟩

end Color

end Sgr
