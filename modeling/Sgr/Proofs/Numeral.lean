import Mathlib.Data.Nat.Digits.Defs
import Sgr.Number.Reading

/-!
# Digits as numbers

Digits are read one by one, from the left, and each new one moves the others up by a place. The
number that comes out is the value of the digits in their base. In decimal they may belong to any
script, and to different ones; a text of digits that is not a number has a digit that is none of
these, such as a superscript, or too many of them.

## Main definitions

* `digitRanges` — where the digits are.
* `IsDecimal` — a text of decimal digits, and its number.

## Main statements

* `ofDigitValues_eq` — the value of digits in a base.
* `readInt_of_decimals`, `readInt_of_ornate` — a text of decimal digits, and one with other digits.
* `isDecimal_iff` — which texts of digits are numbers.
* `exists_readInt_error_iff` — which of them are none.
-/

namespace Sgr.Number

open Sgr.Text

/-! ## Values of digits -/

section Lists

variable {α β : Type} {f : α → Option β}

theorem mapM_eq_none_iff {xs : List α} : xs.mapM f = none ↔ ∃ x ∈ xs, f x = none := by
  induction xs with
  | nil => simp [List.mapM_nil]
  | cons x xs ih =>
    rcases hx : f x with _ | y
    · simp [List.mapM_cons, hx]
    · rcases hxs : xs.mapM f with _ | ys
      · simpa [List.mapM_cons, hx, hxs] using ih.mp hxs
      · have hall : ¬∃ x ∈ xs, f x = none := fun h => by simpa [hxs] using ih.mpr h
        simpa [List.mapM_cons, hx, hxs] using hall

theorem length_of_mapM {xs : List α} {ys : List β} (h : xs.mapM f = some ys) :
    ys.length = xs.length := by
  induction xs generalizing ys with
  | nil =>
    cases h
    rfl
  | cons x xs ih =>
    rw [List.mapM_cons] at h
    obtain ⟨y, -, h⟩ := Option.bind_eq_some_iff.mp h
    obtain ⟨rest, hrest, h⟩ := Option.bind_eq_some_iff.mp h
    cases h
    rw [List.length_cons, List.length_cons, ih hrest]

theorem ne_nil_iff_of_mapM {xs : List α} {ys : List β} (h : xs.mapM f = some ys) :
    ys ≠ [] ↔ xs ≠ [] := by
  rw [← List.length_pos_iff, ← List.length_pos_iff, length_of_mapM h]

end Lists

/-- Digits that are read from the left have the value of the digits in their base. -/
theorem ofDigitValues_eq (base : Nat) (values : List Nat) :
    ofDigitValues base values = Nat.ofDigits base values.reverse := by
  rw [Nat.ofDigits_eq_foldr, List.foldr_reverse, ofDigitValues]
  congr 1
  funext n d
  rw [Nat.cast_id, Nat.mul_comm, Nat.add_comm]

/-! ## Digits and blanks -/

/-- The digits, decimal or not, as ranges of code points with both ends included. -/
def digitRanges : List (Nat × Nat) :=
  (scriptZeros.map fun nought => (nought, nought + 9)) ++ ornateDigitRanges

theorem exists_range_of_isDigit {c : Char} (h : isDigit c) :
    ∃ r ∈ digitRanges, r.1 ≤ c.toNat ∧ c.toNat ≤ r.2 := by
  rcases (Bool.or_eq_true ..).mp h with hsome | hany
  · obtain ⟨d, hd⟩ := Option.isSome_iff_exists.mp hsome
    unfold decimalValue? at hd
    obtain ⟨nought, hfind, -⟩ := Option.map_eq_some_iff.mp hd
    have hrange := List.find?_some hfind
    simp only [Bool.and_eq_true, decide_eq_true_eq] at hrange
    have hmem : (nought, nought + 9) ∈ scriptZeros.map fun nought => (nought, nought + 9) :=
      List.mem_map_of_mem (List.mem_of_find?_eq_some hfind)
    exact ⟨_, List.mem_append_left _ hmem, hrange⟩
  · obtain ⟨o, ho, hrange⟩ := List.any_eq_true.mp hany
    simp only [Bool.and_eq_true, decide_eq_true_eq] at hrange
    exact ⟨o, List.mem_append_right _ ho, hrange⟩

/-- A digit is no white space. -/
theorem isBlank_of_isDigit {c : Char} (h : isDigit c) : isBlank c = false := by
  have hapart : ∀ b ∈ blankRanges, ∀ r ∈ digitRanges, b.2 < r.1 ∨ r.2 < b.1 := by
    decide
  obtain ⟨r, hr, hrange⟩ := exists_range_of_isDigit h
  rw [isBlank, List.any_eq_false]
  intro b hb hc
  simp only [Bool.and_eq_true, decide_eq_true_eq] at hc
  have := hapart b hb r hr
  omega

theorem isNumberBlank_of_isDigit {c : Char} (h : isDigit c) : isNumberBlank c = false := by
  rw [isNumberBlank, isBlank_of_isDigit h, Bool.false_and]

/-! ## Reading digits -/

/-- Decimal digits are read to the end. -/
theorem digitRun_of_decimals {cs : List Char} {values : List Nat}
    (h : cs.mapM decimalValue? = some values) {wants : Bool} (hw : wants → cs ≠ [])
    (n count : Nat) :
    digitRun wants n count cs =
      some (values.foldl (fun n d => n * 10 + d) n, count + values.length, []) := by
  induction cs generalizing values wants n count with
  | nil =>
    cases h
    have hwants : wants = false := by simpa using hw
    rw [hwants]
    rfl
  | cons c cs ih =>
    rw [List.mapM_cons] at h
    obtain ⟨d, hd, h⟩ := Option.bind_eq_some_iff.mp h
    obtain ⟨rest, hrest, h⟩ := Option.bind_eq_some_iff.mp h
    cases h
    simp only [digitRun, hd]
    rw [ih hrest Bool.false_ne_true.elim, List.foldl_cons, List.length_cons]
    congr 3
    omega

/-- Another digit ends the number. -/
theorem digitRun_of_ornate {cs : List Char} (hdigits : ∀ c ∈ cs, isDigit c)
    (h : ∃ c ∈ cs, decimalValue? c = none) (wants : Bool) (n count : Nat) :
    digitRun wants n count cs = none ∨
      ∃ n' count' c rest, isDigit c ∧ digitRun wants n count cs = some (n', count', c :: rest) := by
  induction cs generalizing wants n count with
  | nil =>
    obtain ⟨c, hc, -⟩ := h
    cases hc
  | cons c cs ih =>
    obtain ⟨hc, hcs⟩ := List.forall_mem_cons.mp hdigits
    rcases hd : decimalValue? c with _ | d
    · have hmark : c ≠ '_' := by
        rintro rfl
        exact absurd hc (by decide)
      cases wants with
      | true => exact .inl (by simp [digitRun, hd])
      | false => exact .inr ⟨n, count, c, cs, hc, by simp [digitRun, hd, hmark]⟩
    · have hrest : ∃ c ∈ cs, decimalValue? c = none := by
        obtain ⟨x, hx, hnone⟩ := h
        rcases List.mem_cons.mp hx with rfl | hx
        · rw [hd] at hnone
          cases hnone
        · exact ⟨x, hx, hnone⟩
      simp only [digitRun, hd]
      exact ih hcs hrest false _ _

/-- A number that starts with a digit has no blanks and no sign in front. -/
theorem readInt_of_digit {s : String} {c : Char} {cs : List Char} (hs : s.toList = c :: cs)
    (hc : isDigit c) :
    readInt s = match digitRun true 0 0 (c :: cs) with
      | none => .error .malformed
      | some (n, count, rest) =>
        if maxDigits < count then .error (.tooLong count)
        else if rest.all isNumberBlank then .ok n
        else .error .malformed := by
  have hblank : skipBlanks (c :: cs) = c :: cs :=
    List.dropWhile_cons_of_neg (by simp [isNumberBlank_of_isDigit hc])
  have hsign : readSign (c :: cs) = (false, c :: cs) := by
    unfold readSign
    split
    · next h =>
      cases h
      exact absurd hc (by decide)
    · next h =>
      cases h
      exact absurd hc (by decide)
    · rfl
  rw [readInt, hs, hblank, hsign]
  rfl

/-- A text of decimal digits is the number that they denote, unless there are too many. -/
theorem readInt_of_decimals {s : String} {values : List Nat} (hne : values ≠ [])
    (h : s.toList.mapM decimalValue? = some values) :
    readInt s =
      if maxDigits < values.length then .error (.tooLong values.length)
      else .ok (Nat.ofDigits 10 values.reverse : Nat) := by
  rcases hs : s.toList with _ | ⟨c, cs⟩
  · rw [hs] at h
    cases h
    exact absurd rfl hne
  · rw [hs] at h
    have hc : isDigit c := by
      rw [List.mapM_cons] at h
      obtain ⟨d, hd, -⟩ := Option.bind_eq_some_iff.mp h
      simp [isDigit, hd]
    have hvalue : values.foldl (fun n d => n * 10 + d) 0 = Nat.ofDigits 10 values.reverse :=
      ofDigitValues_eq 10 values
    rw [readInt_of_digit hs hc, digitRun_of_decimals h (fun _ => List.cons_ne_nil c cs), hvalue]
    simp

/-- A text with another digit is no number. -/
theorem readInt_of_ornate {s : String} (hdigits : isDigits s)
    (h : ∃ c ∈ s.toList, decimalValue? c = none) : ∃ f, readInt s = .error f := by
  have hall : ∀ c ∈ s.toList, isDigit c := by
    simpa using ((Bool.and_eq_true ..).mp hdigits).2
  rcases hs : s.toList with _ | ⟨c, cs⟩
  · rw [hs] at h
    simp at h
  · rw [hs] at h hall
    rw [readInt_of_digit hs (hall c List.mem_cons_self)]
    rcases digitRun_of_ornate hall h true 0 0 with hrun | ⟨n, count, d, rest, hd, hrun⟩
    · exact ⟨.malformed, by rw [hrun]⟩
    · rw [hrun]
      simp only [List.all_cons, isNumberBlank_of_isDigit hd, Bool.false_and, Bool.false_eq_true,
        if_false]
      split
      · exact ⟨_, rfl⟩
      · exact ⟨_, rfl⟩

/-! ## Texts of digits -/

/-- A text of decimal digits, at least one and no more than a number may have, is a number. -/
def IsDecimal (s : String) (n : Nat) : Prop :=
  ∃ values, s.toList.mapM decimalValue? = some values ∧ values ≠ [] ∧
    values.length ≤ maxDigits ∧ n = Nat.ofDigits 10 values.reverse

theorem isDigits_of_decimals {s : String} {values : List Nat} (hne : values ≠ [])
    (h : s.toList.mapM decimalValue? = some values) : isDigits s := by
  have hchars : s.toList ≠ [] := (ne_nil_iff_of_mapM h).mp hne
  have hall : ∀ c ∈ s.toList, isDigit c := by
    intro c hc
    rcases hd : decimalValue? c with _ | d
    · rw [mapM_eq_none_iff.mpr ⟨c, hc, hd⟩] at h
      cases h
    · simp [isDigit, hd]
  simp [isDigits, hchars, List.all_eq_true.mpr hall]

theorem ne_nil_of_isDigits {s : String} (hdigits : isDigits s) {values : List Nat}
    (h : s.toList.mapM decimalValue? = some values) : values ≠ [] := by
  rw [ne_nil_iff_of_mapM h]
  intro hnil
  simp [isDigits, hnil] at hdigits

/-- The number of a text of digits is the one that decimal digits denote. -/
theorem exists_isDecimal_of_readInt {s : String} {i : Int} (hdigits : isDigits s)
    (hread : readInt s = .ok i) : ∃ n : Nat, i = n ∧ IsDecimal s n := by
  rcases h : s.toList.mapM decimalValue? with _ | values
  · obtain ⟨f, hf⟩ := readInt_of_ornate hdigits (mapM_eq_none_iff.mp h)
    rw [hf] at hread
    cases hread
  · have hne := ne_nil_of_isDigits hdigits h
    rw [readInt_of_decimals hne h] at hread
    split at hread
    · cases hread
    · exact ⟨_, (Except.ok.inj hread).symm, values, h, hne, by omega, rfl⟩

/-- A text of digits is a number if all of them are decimal and there are not too many. -/
theorem isDecimal_iff {s : String} {n : Nat} :
    IsDecimal s n ↔ isDigits s ∧ readInt s = .ok (n : Int) := by
  constructor
  · rintro ⟨values, h, hne, hlength, rfl⟩
    refine ⟨isDigits_of_decimals hne h, ?_⟩
    rw [readInt_of_decimals hne h, if_neg (by omega)]
  · rintro ⟨hdigits, hread⟩
    obtain ⟨m, hm, hdecimal⟩ := exists_isDecimal_of_readInt hdigits hread
    rwa [Int.ofNat_inj.mp hm]

/-- A text of digits is no number if one of them is not decimal or if there are too many. -/
theorem exists_readInt_error_iff {s : String} (hdigits : isDigits s) :
    (∃ f, readInt s = .error f) ↔
      (∃ c ∈ s.toList, decimalValue? c = none) ∨ maxDigits < s.toList.length := by
  rcases h : s.toList.mapM decimalValue? with _ | values
  · have hornate := mapM_eq_none_iff.mp h
    exact iff_of_true (readInt_of_ornate hdigits hornate) (.inl hornate)
  · have hdecimal : ¬∃ c ∈ s.toList, decimalValue? c = none := fun hnone => by
      rw [mapM_eq_none_iff.mpr hnone] at h
      cases h
    rw [readInt_of_decimals (ne_nil_of_isDigits hdigits h) h, ← length_of_mapM h]
    by_cases hlong : maxDigits < values.length
    · simp [hlong]
    · simp [hlong, hdecimal]

end Sgr.Number
