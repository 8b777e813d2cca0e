import Sgr.Proofs.Color.Spelling

/-!
# What is no colour

A value that is no colour is refused with an error whose class tells what is wrong: a number is out
of range, a text is none of the spellings or a sequence has the wrong length, or the type is none of
those that colours are given by. Which values are refused, and with which class, is told here by the
values alone.

Three more things happen on the way. Digits can pass as digits and not be a number, an undefined
fraction is neither too small nor too large, and an error whose message shows a value needs the
value to have a text. None of these is any of the three.

## Main definitions

* `Color.Refused` — a value is refused with an error of a class.
* `Color.TextRefused`, `Color.PartRefused` — the same of texts and of components.

## Main statements

* `Color.readValue_refused` — a value is a colour on the plane, or it is refused.
-/

namespace Sgr

/-- A whole number has a text unless it is too long. -/
theorem Value.textFault?_of_whole? {v : Value} {i : Int} (h : v.whole? = some i) :
    v.textFault? = if Number.isWritable i then none else some .unwritable := by
  cases v with
  | int j =>
    cases h
    rfl
  | level l =>
    cases h
    cases l <;> rfl
  | _ => cases h

namespace Color

/-! ## Classes of failures -/

section Fails

variable {α β : Type} {c : ErrorClass}

/-- A reading fails with an error of a class. -/
def Fails (r : Except ColorError α) (c : ErrorClass) : Prop :=
  ∃ e, r = .error e ∧ e.errorClass = c

@[simp] theorem fails_ok (a : α) : ¬Fails (.ok a) c := by
  rintro ⟨e, h, -⟩
  cases h

theorem fails_pure (a : α) : ¬Fails (pure a) c :=
  fails_ok a

@[simp] theorem fails_error (e : ColorError) :
    Fails (.error e : Except ColorError α) c ↔ c = e.errorClass := by
  constructor
  · rintro ⟨_, h, rfl⟩
    cases h
    rfl
  · rintro rfl
    exact ⟨e, rfl, rfl⟩

@[simp] theorem fails_map {r : Except ColorError α} {f : α → β} : Fails (r.map f) c ↔ Fails r c := by
  cases r <;> simp [Except.map]

/-- What succeeds does not fail. -/
theorem exists_ok_iff {r : Except ColorError α} : (∃ a, r = .ok a) ↔ ∀ d, ¬Fails r d := by
  cases r <;> simp

/-- A sequence fails if its first part does, or else if its second part does, whatever the result of
the first was. -/
theorem fails_bind {r : Except ColorError α} {f : α → Except ColorError β} {P : Prop}
    (hf : ∀ a, Fails (f a) c ↔ P) : Fails (r >>= f) c ↔ Fails r c ∨ (∀ d, ¬Fails r d) ∧ P := by
  cases r with
  | ok a => simpa [bind, Except.bind] using hf a
  | error e => simp [bind, Except.bind]

end Fails

/-- The class of an error about a number out of range, whose message shows the number. -/
def rangeClass (i : Int) : ErrorClass :=
  if Number.isWritable i then .colorRange else .wrongValue

theorem errorClass_showing {v : Value} {i : Int} (h : v.whole? = some i) {e : ColorError}
    (he : e.errorClass = .colorRange) : (e.showing v).errorClass = rangeClass i := by
  rw [ColorError.showing, Value.textFault?_of_whole? h, rangeClass]
  by_cases hi : Number.isWritable i
  · rw [if_pos hi, if_pos hi]
    exact he
  · rw [if_neg hi, if_neg hi]
    rfl

variable {p : Plane} {c : ErrorClass}

/-! ## Components -/

/-- A value is refused as a byte: a whole number that is none, or another value. -/
def ByteRefused (v : Value) (c : ErrorClass) : Prop :=
  match v.whole? with
  | some i => ¬(0 ≤ i ∧ i ≤ 255) ∧ c = rangeClass i
  | none => c = .wrongType

/-- A component of a colour is refused: a fraction that is undefined, negative or greater than one,
or a value that is no byte. -/
def PartRefused : Value → ErrorClass → Prop
  | .float x, c =>
    x = .undefined ∧ c = .wrongValue ∨
      (x.lt Double.zero ∨ Double.one.lt x) ∧ c = .colorRange
  | v, c => ByteRefused v c

theorem fails_byteOf (what : Component) (v : Value) :
    Fails (byteOf what v) c ↔ ByteRefused v c := by
  unfold byteOf ByteRefused
  rcases h : v.whole? with _ | i
  · exact fails_error _
  · dsimp only
    split
    · next hi => simp [hi]
    · next hi =>
      rw [fails_error, errorClass_showing h rfl]
      exact (and_iff_right hi).symm

/-- Nothing is less or greater than the undefined fraction. -/
theorem ne_undefined_of_lt {x : Double} (h : x.lt Double.zero ∨ Double.one.lt x) :
    x ≠ .undefined := by
  rintro rfl
  cases h with
  | inl h => cases h
  | inr h => cases h

theorem fails_componentOf (what : Component) (v : Value) :
    Fails (componentOf what v) c ↔ PartRefused v c := by
  unfold componentOf
  split
  · next x =>
    rw [PartRefused]
    by_cases hlow : x.lt Double.zero
    · simp [hlow, ne_undefined_of_lt (.inl hlow), ColorError.errorClass]
    · by_cases hhigh : Double.one.lt x
      · simp [hlow, hhigh, ne_undefined_of_lt (.inr hhigh), ColorError.errorClass]
      · by_cases hundefined : x = .undefined
        · rw [if_neg hlow, if_neg hhigh, if_pos hundefined, fails_error]
          constructor
          · rintro rfl
            exact .inl ⟨hundefined, rfl⟩
          · rintro (⟨-, rfl⟩ | ⟨hrange, -⟩)
            · rfl
            · exact absurd hundefined (ne_undefined_of_lt hrange)
        · simp [hlow, hhigh, hundefined]
  · next hfloat =>
    rw [PartRefused.eq_2 v c hfloat]
    exact fails_byteOf what v

/-- The first component that is refused. -/
def PartsRefused : List Value → ErrorClass → Prop
  | [], _ => False
  | v :: vs, c => PartRefused v c ∨ (∀ d, ¬PartRefused v d) ∧ PartsRefused vs c

/-- A sequence is refused: it does not have three components, or one of them is refused. -/
def SequenceRefused (items : List Value) (c : ErrorClass) : Prop :=
  if items.length = 3 then PartsRefused items c else c = .grammar

theorem fails_ofComponents (v : Value) (items : List Value) (p : Plane) :
    Fails (ofComponents v items p) c ↔ SequenceRefused items c := by
  unfold ofComponents SequenceRefused
  split
  · next r g b =>
    rw [fails_bind fun _ => fails_bind fun _ => fails_bind fun _ => iff_false_intro (fails_pure _)]
    simp only [fails_componentOf]
    rfl
  · next hthree =>
    have hlength : items.length ≠ 3 := by
      intro h
      obtain ⟨r, g, b, hitems⟩ := List.length_eq_three.mp h
      exact hthree r g b hitems
    rw [if_neg hlength, fails_error]
    rfl

/-! ## Numbers -/

/-- A whole number is refused: it is negative or too great for a packed one. -/
def NumberRefused (i : Int) (c : ErrorClass) : Prop :=
  i < 0 ∧ c = rangeClass i ∨ (maxPacked : Int) < i ∧ c = .colorRange

theorem fails_ofPackedInt {i : Int} :
    Fails (ofPackedInt i p) c ↔ ¬(0 ≤ i ∧ i ≤ maxPacked) ∧ c = .colorRange := by
  unfold ofPackedInt
  split
  · next h => simp [h]
  · next h => simp [h, ColorError.errorClass]

theorem fails_ofInt {i : Int} : Fails (ofInt i p) c ↔ NumberRefused i c := by
  have hmax : (maxPacked : Int) = 0xFFFFFF := rfl
  unfold ofInt NumberRefused
  split
  · next hsign =>
    rw [fails_error, errorClass_showing (i := i) rfl rfl]
    have hrange : ¬(maxPacked : Int) < i := by omega
    simp [hsign, hrange]
  · next hsign =>
    split
    · next hi =>
      have hrange : ¬(maxPacked : Int) < i := by omega
      simp [hsign, hrange]
    · next hi =>
      rw [fails_ofPackedInt]
      have hrange : ¬(0 ≤ i ∧ i ≤ (maxPacked : Int)) ↔ (maxPacked : Int) < i := by omega
      simp [hsign, hrange]

/-! ## Texts -/

/-- A text denotes a number, in hexadecimal behind a mark or in decimal. -/
def IsNumber (t : String) (n : Nat) : Prop :=
  IsHexNumber t n ∨ Number.IsDecimal t n

/-- A text without blanks around it is refused: its number is too great, its digits are no number,
or it is spelt in none of the three ways. -/
inductive TextRefused (t : String) : ErrorClass → Prop where
  | excess {n : Nat} : IsNumber t n → maxPacked < n → TextRefused t .colorRange
  | unreadable :
    Text.isDigits t →
      (∃ x ∈ t.toList, Text.decimalValue? x = none) ∨ Number.maxDigits < t.toList.length →
        TextRefused t .wrongValue
  | unspelt : (∀ k : Spelling, ¬k.Fits t) → TextRefused t .grammar

variable {s t : String} {n m : Nat}

theorem IsNumber.unique (h : IsNumber t n) (h' : IsNumber t m) : n = m := by
  have hapart {n m : Nat} (h : IsHexNumber t n) (h' : Number.IsDecimal t m) : False :=
    not_isDigits_of_isHexNumber h (Number.isDecimal_iff.mp h').1
  rcases h with h | h
  · rcases h' with h' | h'
    · exact IsHexNumber.unique h h'
    · exact (hapart h h').elim
  · rcases h' with h' | h'
    · exact (hapart h' h).elim
    · have hread := (Number.isDecimal_iff.mp h).2.symm.trans (Number.isDecimal_iff.mp h').2
      exact Int.ofNat_inj.mp (Except.ok.inj hread)

/-- A number is refused only if it is too great. -/
theorem textRefused_of_isNumber (h : IsNumber t n) :
    TextRefused t c ↔ maxPacked < n ∧ c = .colorRange := by
  constructor
  · intro hrefused
    cases hrefused with
    | excess hm hrange =>
      rw [h.unique hm]
      exact ⟨hrange, rfl⟩
    | unreadable hdigits hfault =>
      obtain ⟨f, hf⟩ := (Number.exists_readInt_error_iff hdigits).mpr hfault
      rcases h with h | h
      · exact absurd hdigits (not_isDigits_of_isHexNumber h)
      · rw [(Number.isDecimal_iff.mp h).2] at hf
        cases hf
    | unspelt hnone =>
      rcases h with h | h
      · exact absurd ⟨n, h⟩ (hnone .hex)
      · exact absurd (Number.isDecimal_iff.mp h).1 (hnone .decimal)
  · rintro ⟨hrange, rfl⟩
    exact .excess h hrange

theorem not_isNumber_of_readInt {f : Number.IntFault} (hdigits : Text.isDigits t)
    (hread : Number.readInt t = .error f) (n : Nat) : ¬IsNumber t n := by
  rintro (h | h)
  · exact not_isDigits_of_isHexNumber h hdigits
  · rw [(Number.isDecimal_iff.mp h).2] at hread
    cases hread

/-- Digits that are no number are refused. -/
theorem textRefused_of_readInt {f : Number.IntFault} (hdigits : Text.isDigits t)
    (hread : Number.readInt t = .error f) : TextRefused t c ↔ c = .wrongValue := by
  constructor
  · intro hrefused
    cases hrefused with
    | excess hn => exact absurd hn (not_isNumber_of_readInt hdigits hread _)
    | unreadable => rfl
    | unspelt hnone => exact absurd hdigits (hnone .decimal)
  · rintro rfl
    exact .unreadable hdigits ((Number.exists_readInt_error_iff hdigits).mp ⟨f, hread⟩)

/-- Without a number and without digits, a text is refused unless it is a name. -/
theorem textRefused_of_neither (hhex : ¬∃ n, IsHexNumber t n) (hdigits : ¬Text.isDigits t) :
    TextRefused t c ↔ ¬Spelling.name.Fits t ∧ c = .grammar := by
  constructor
  · intro hrefused
    cases hrefused with
    | excess hn =>
      rcases hn with hn | hn
      · exact absurd ⟨_, hn⟩ hhex
      · exact absurd (Number.isDecimal_iff.mp hn).1 hdigits
    | unreadable h => exact absurd h hdigits
    | unspelt hnone => exact ⟨hnone .name, rfl⟩
  · rintro ⟨hname, rfl⟩
    refine .unspelt fun k => ?_
    cases k with
    | hex => exact hhex
    | decimal => exact hdigits
    | name => exact hname

theorem fails_ofName : Fails (ofName s p) c ↔ ¬Spelling.name.Fits s ∧ c = .grammar := by
  rcases h : ofName s p with e | d
  · have hclass : e.errorClass = .grammar := by
      unfold ofName at h
      split at h
      · cases h
      · cases h
        rfl
    have hname : ¬Spelling.name.Fits s := by
      rintro ⟨base, bright, hname⟩
      rw [ofName_eq_ok.mpr ⟨base, bright, hname, rfl⟩] at h
      cases h
    simp [hname, hclass]
  · obtain ⟨base, bright, hname, -⟩ := ofName_eq_ok.mp h
    have hfits : Spelling.name.Fits s := ⟨base, bright, hname⟩
    simp [hfits]

theorem fails_ofText : Fails (ofText s p) c ↔ TextRefused (Text.strip s) c := by
  by_cases hhex : ∃ n, IsHexNumber (Text.strip s) n
  · obtain ⟨n, hn⟩ := hhex
    rw [ofText_of_isHexNumber hn, fails_ofPackedInt, textRefused_of_isNumber (.inl hn)]
    exact and_congr_left fun _ => by omega
  · by_cases hdigits : Text.isDigits (Text.strip s)
    · rcases hread : Number.readInt (Text.strip s) with f | i
      · rw [ofText_of_unreadable hdigits hread, textRefused_of_readInt hdigits hread, fails_error]
        rfl
      · obtain ⟨n, rfl, hn⟩ := Number.exists_isDecimal_of_readInt hdigits hread
        have hsign : ¬(n : Int) < 0 := by omega
        have hnumber : NumberRefused n c ↔ maxPacked < n ∧ c = .colorRange := by
          simp [NumberRefused, hsign]
        rw [ofText_of_readInt hdigits hread, textRefused_of_isNumber (.inr hn), ← hnumber,
          fails_ofInt]
    · rw [ofText_of_neither hhex hdigits, fails_ofName, textRefused_of_neither hhex hdigits]

/-! ## Values -/

/-- A value is refused with an error of a class. The error about a value of another type shows the
value, so that the value's text may be what it fails with. -/
def Refused : Value → ErrorClass → Prop
  | .color _, _ | .shade .., _ => False
  | .text s, c => TextRefused (Text.strip s) c
  | .sigil s, c => TextRefused (Text.strip s.text) c
  | .bool _, c => c = .wrongType
  | .int i, c => NumberRefused i c
  | .level l, c => NumberRefused l.code c
  | .tuple items, c | .list items, c => SequenceRefused items c
  | v, c => c = match v.textFault? with
    | some fault => fault.errorClass
    | none => .wrongType

theorem fails_ofValue {v : Value} (hshade : ∀ base bright q, v ≠ .shade base bright q) :
    Fails (ofValue v p) c ↔ Refused v c := by
  unfold ofValue
  split
  · simp [Refused]
  · exact absurd rfl (hshade _ _ _)
  · exact fails_ofText
  · exact fails_ofText
  · exact fails_error _
  · exact fails_ofInt
  · exact fails_ofInt
  · exact fails_ofComponents _ _ p
  · exact fails_ofComponents _ _ p
  · rw [fails_error, Refused, ColorError.showing]
    · rcases v.textFault? with _ | fault <;> rfl
    all_goals assumption

/-! ## Values without a text

Only the error about a value of another type can come from a mode that has no name: numbers have
none. -/

theorem not_byteRefused (v : Value) : ¬ByteRefused v .noAttribute := by
  have hclass (i : Int) : rangeClass i ≠ .noAttribute := by
    unfold rangeClass
    split <;> decide
  unfold ByteRefused
  split
  · exact fun h => hclass _ h.2.symm
  · decide

theorem not_partRefused (v : Value) : ¬PartRefused v .noAttribute := by
  unfold PartRefused
  split
  · simp
  · exact not_byteRefused _

theorem not_sequenceRefused (items : List Value) : ¬SequenceRefused items .noAttribute := by
  have hparts (vs : List Value) : ¬PartsRefused vs .noAttribute := by
    induction vs with
    | nil => exact id
    | cons v vs ih => exact fun h => h.elim (not_partRefused v) fun h => ih h.2
  unfold SequenceRefused
  split
  · exact hparts items
  · decide

/-! ## Planes -/

section Plane

variable {d : Color} {v : Value}

theorem plane_of_ofPackedInt {i : Int} (h : ofPackedInt i p = .ok d) : d.plane = p := by
  unfold ofPackedInt at h
  split at h
  · cases h
    rfl
  · cases h

theorem plane_of_ofInt {i : Int} (h : ofInt i p = .ok d) : d.plane = p := by
  unfold ofInt at h
  split at h
  · cases h
  · split at h
    · cases h
      rfl
    · exact plane_of_ofPackedInt h

theorem plane_of_ofText (h : ofText s p = .ok d) : d.plane = p := by
  obtain ⟨k, hk⟩ := ofText_eq_ok.mp h
  cases k with
  | hex =>
    obtain ⟨n, -, r, g, b, rfl, -⟩ := hk
    rfl
  | decimal =>
    obtain ⟨n, hn, h⟩ := hk
    exact plane_of_ofInt (ofInt_eq_ok.mpr h)
  | name =>
    obtain ⟨base, bright, -, rfl⟩ := hk
    rfl

theorem plane_of_ofComponents {items : List Value} (h : ofComponents v items p = .ok d) :
    d.plane = p := by
  unfold ofComponents at h
  split at h
  · obtain ⟨r, -, h⟩ := exists_of_bind_ok h
    obtain ⟨g, -, h⟩ := exists_of_bind_ok h
    obtain ⟨b, -, h⟩ := exists_of_bind_ok h
    cases h
    rfl
  · cases h

theorem plane_of_ofShade {base : Fin 8} {bright : Value} (h : ofShade base bright p = .ok d) :
    d.plane = p := by
  unfold ofShade at h
  split at h
  · cases h
    rfl
  · split at h
    · cases h
      rfl
    · cases h

/-- A colour is read on the plane that was asked for. -/
theorem plane_of_ofValue (h : ofValue v p = .ok d) : d.plane = p := by
  unfold ofValue at h
  split at h
  · cases h
    exact plane_onPlane _ _
  · exact plane_of_ofShade h
  · exact plane_of_ofText h
  · exact plane_of_ofText h
  · cases h
  · exact plane_of_ofInt h
  · exact plane_of_ofInt h
  · exact plane_of_ofComponents h
  · exact plane_of_ofComponents h
  · cases h

end Plane

/-! ## Reading -/

/-- A value is a colour on a plane. -/
def IsOn (p : Plane) : Value → Prop
  | .color d => d.plane = p
  | .shade _ _ q => q = p
  | _ => False

/-- A value is read as a colour on the plane, unless it is refused; then the class of the error is
the one that it is refused with. -/
theorem readValue_refused (v : Value) (p : Plane) :
    (∀ r, readValue v p = .ok r → IsOn p r) ∧
    ((∃ r, readValue v p = .ok r) ↔ ∀ c, ¬Refused v c) ∧
    ∀ c, (∃ e, readValue v p = .error e ∧ e.errorClass = c) ↔ Refused v c := by
  have hplane (r : Value) (h : readValue v p = .ok r) : IsOn p r := by
    unfold readValue at h
    split at h
    · cases h
      exact rfl
    · obtain ⟨d, hd, rfl⟩ := exists_of_map_ok h
      exact plane_of_ofValue hd
  have hfails (c : ErrorClass) : Fails (readValue v p) c ↔ Refused v c := by
    unfold readValue
    split
    · simp [Refused]
    · next hshade =>
      rw [fails_map]
      exact fails_ofValue hshade
  refine ⟨hplane, ?_, hfails⟩
  rw [exists_ok_iff]
  exact forall_congr' fun c => not_congr (hfails c)

/-- A superscript passes as a digit and is no number, which is none of the three. -/
theorem readValue_superscript :
    ¬∀ v p, (∃ r, readValue v p = .ok r) ∨ ∃ e, readValue v p = .error e ∧
      e.errorClass ∈ [.colorRange, .grammar, .wrongType] := by
  intro hcontract
  have hread : readValue (.text "²") .foreground =
      .error (.unreadable "²" .malformed) := by
    rfl
  rcases hcontract (.text "²") .foreground with ⟨r, hr⟩ | ⟨e, he, hclass⟩
  · exact nomatch hread.symm.trans hr
  · rw [← Except.error.inj (hread.symm.trans he)] at hclass
    simp [ColorError.errorClass] at hclass

end Color

end Sgr
