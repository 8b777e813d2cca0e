import Sgr.Template.Script

/-!
# Fields in front of plain text

Plain text, which has no braces, is put behind a template. It can fall into a field that the
template leaves open: then its characters are read as a part of the name or of the specification,
and a colon or an exclamation mark in it can even end the name. What it cannot do is to close the
field, since only a brace does.

## Main statements

* `Field.read_append_of_ok` — a complete field stays, and the plain text is left over.
* `Field.read_append_of_error` — a broken field stays broken, though perhaps with another fault.
* `Field.errorClass_of_read` — whatever is wrong with a field is a wrong value.
-/

namespace Sgr.Field

theorem eq_error_of_map_eq_error {ε α β : Type} {f : α → β} {x : Except ε α} {e : ε}
    (h : x.map f = .error e) : x = .error e := by
  cases x with
  | error d =>
    cases h
    rfl
  | ok a => cases h

theorem ne_brace_of_isPlain {c : Char} (hc : Script.isPlain c) : c ≠ '{' ∧ c ≠ '}' := by
  simpa [Script.isPlain] using hc

/-! ## Specifications -/

theorem readSpec_of_plain {s : List Char} (hs : s.all Script.isPlain) (depth : Nat) :
    readSpec depth s = .error .unmatchedOpen := by
  induction s with
  | nil => rfl
  | cons c s ih =>
    simp only [List.all_cons, Bool.and_eq_true] at hs
    obtain ⟨ho, hc⟩ := ne_brace_of_isPlain hs.1
    simp [readSpec, ho, hc, ih hs.2, Except.map]

theorem readSpec_append_of_plain {s : List Char} (hs : s.all Script.isPlain) (depth : Nat)
    (cs : List Char) :
    readSpec depth (cs ++ s) = (readSpec depth cs).map fun (spec, rest) => (spec, rest ++ s) := by
  induction cs generalizing depth with
  | nil => simp [readSpec_of_plain hs, readSpec, Except.map]
  | cons c cs ih =>
    simp only [List.cons_append, readSpec]
    split
    · rfl
    · rw [ih]
      rcases readSpec _ cs with _ | ⟨spec, rest⟩ <;> rfl

theorem errorClass_of_readSpec {depth : Nat} {cs : List Char} {f : FormatFault}
    (h : readSpec depth cs = .error f) : f.errorClass = .wrongValue := by
  induction cs generalizing depth with
  | nil =>
    cases h
    rfl
  | cons c cs ih =>
    unfold readSpec at h
    split at h
    · cases h
    · exact ih (eq_error_of_map_eq_error h)

/-! ## Names -/

/-- What a character does to the reading of a name: it is a part of the name, it may not stand
there, or it ends the name. Which of them depends on nothing behind it. -/
theorem readName_cons (inBrackets : Bool) (a : Char) :
    (∃ b, ∀ cs, readName inBrackets (a :: cs) =
      (readName b cs).map fun (name, rest) => (a :: name, rest)) ∨
    (∀ cs, readName inBrackets (a :: cs) = .error .openInName) ∨
    (a = '}' ∨ a = ':' ∨ a = '!') ∧ ∀ cs, readName inBrackets (a :: cs) = .ok ([], a, cs) := by
  cases inBrackets with
  | true => exact .inl ⟨a ≠ ']', fun _ => rfl⟩
  | false =>
    by_cases ho : a = '{'
    · exact .inr (.inl fun cs => by simp [readName, ho])
    · by_cases he : a = '}' ∨ a = ':' ∨ a = '!'
      · exact .inr (.inr ⟨he, fun cs => by simp [readName, ho, he]⟩)
      · exact .inl ⟨a = '[', fun cs => by simp [readName, ho, he]⟩

theorem readName_append_of_ok {inBrackets : Bool} {cs name r : List Char} {c : Char}
    (h : readName inBrackets cs = .ok (name, c, r)) (s : List Char) :
    readName inBrackets (cs ++ s) = .ok (name, c, r ++ s) := by
  induction cs generalizing inBrackets name with
  | nil => cases h
  | cons a cs ih =>
    rw [List.cons_append]
    rcases readName_cons inBrackets a with ⟨b, step⟩ | stop | ⟨-, stop⟩
    · rw [step] at h ⊢
      obtain ⟨⟨n, d, t⟩, hr, hn⟩ := exists_of_map_eq_ok h
      cases hn
      rw [ih hr]
      rfl
    · rw [stop] at h
      cases h
    · rw [stop] at h ⊢
      cases h
      rfl

/-- In plain text a name can end, but not by a closing brace. -/
theorem end_of_readName_of_plain {inBrackets : Bool} {s name r : List Char} {c : Char}
    (hs : s.all Script.isPlain) (h : readName inBrackets s = .ok (name, c, r)) :
    (c = ':' ∨ c = '!') ∧ r.all Script.isPlain := by
  induction s generalizing inBrackets name with
  | nil => cases h
  | cons a s ih =>
    simp only [List.all_cons, Bool.and_eq_true] at hs
    rcases readName_cons inBrackets a with ⟨b, step⟩ | stop | ⟨he, stop⟩
    · rw [step] at h
      obtain ⟨⟨n, d, t⟩, hr, hn⟩ := exists_of_map_eq_ok h
      cases hn
      exact ih hs.2 hr
    · rw [stop] at h
      cases h
    · rw [stop] at h
      cases h
      exact ⟨he.resolve_left (ne_brace_of_isPlain hs.1).2, hs.2⟩

/-- A name without an end gets none from plain text behind it that a closing brace would be. -/
theorem end_of_readName_append {inBrackets : Bool} {cs s name r : List Char} {c : Char}
    {f : FormatFault} (hs : s.all Script.isPlain) (h : readName inBrackets cs = .error f)
    (hr : readName inBrackets (cs ++ s) = .ok (name, c, r)) :
    (c = ':' ∨ c = '!') ∧ r.all Script.isPlain := by
  induction cs generalizing inBrackets name f with
  | nil => exact end_of_readName_of_plain hs hr
  | cons a cs ih =>
    rw [List.cons_append] at hr
    rcases readName_cons inBrackets a with ⟨b, step⟩ | stop | ⟨-, stop⟩
    · rw [step] at h hr
      obtain ⟨⟨n, d, t⟩, hr, hn⟩ := exists_of_map_eq_ok hr
      cases hn
      exact ih (eq_error_of_map_eq_error h) hr
    · rw [stop] at hr
      cases hr
    · rw [stop] at h
      cases h

theorem errorClass_of_readName {inBrackets : Bool} {cs : List Char} {f : FormatFault}
    (h : readName inBrackets cs = .error f) : f.errorClass = .wrongValue := by
  induction cs generalizing inBrackets with
  | nil =>
    cases h
    rfl
  | cons a cs ih =>
    rcases readName_cons inBrackets a with ⟨b, step⟩ | stop | ⟨-, stop⟩
    · rw [step] at h
      exact ih (eq_error_of_map_eq_error h)
    · rw [stop] at h
      cases h
      rfl
    · rw [stop] at h
      cases h

/-! ## What follows a name -/

theorem errorClass_of_withSpec {name cs : List Char} {conversion : Option Char} {f : FormatFault}
    (h : withSpec name conversion cs = .error f) : f.errorClass = .wrongValue :=
  errorClass_of_readSpec (eq_error_of_map_eq_error h)

theorem withSpec_of_plain {r : List Char} (hr : r.all Script.isPlain) (name : List Char)
    (conversion : Option Char) : withSpec name conversion r = .error .unmatchedOpen := by
  rw [withSpec, readSpec_of_plain hr]
  rfl

theorem withSpec_append_of_plain {s : List Char} (hs : s.all Script.isPlain) (name : List Char)
    (conversion : Option Char) (cs : List Char) :
    withSpec name conversion (cs ++ s) =
      (withSpec name conversion cs).map fun (f, rest) => (f, rest ++ s) := by
  unfold withSpec
  rw [readSpec_append_of_plain hs]
  rcases readSpec 0 cs with _ | ⟨spec, rest⟩ <;> rfl

/-- The field of a name, given the character that ends it and what follows. -/
def close (name : List Char) (c : Char) (r : List Char) : Except FormatFault (Field × List Char) :=
  if c = ':' then withSpec name none r
  else if c = '!' then
    match r with
    | [] => .error .noConversion
    | [_] => .error .unmatchedOpen
    | conversion :: d :: r =>
      if d = '}' then .ok (⟨name, some conversion, [], false⟩, r)
      else if d = ':' then withSpec name (some conversion) r
      else .error .noColon
  else .ok (⟨name, none, [], false⟩, r)

theorem close_append_of_ok {s name r rest : List Char} {c : Char} {f : Field}
    (hs : s.all Script.isPlain) (h : close name c r = .ok (f, rest)) :
    close name c (r ++ s) = .ok (f, rest ++ s) := by
  unfold close at h ⊢
  split at h
  · rw [if_pos ‹_›, withSpec_append_of_plain hs, h]
    rfl
  · rw [if_neg ‹_›]
    split at h
    · rw [if_pos ‹_›]
      rcases r with _ | ⟨a, _ | ⟨d, r⟩⟩
      · cases h
      · cases h
      · simp only [List.cons_append] at h ⊢
        split at h
        · cases h
          rw [if_pos ‹_›]
        · rw [if_neg ‹_›]
          split at h
          · rw [if_pos ‹_›, withSpec_append_of_plain hs, h]
            rfl
          · cases h
    · cases h
      rw [if_neg ‹_›]

/-- Behind a conversion, plain text has no closing brace. -/
theorem close_mark_of_plain {s : List Char} (hs : s.all Script.isPlain) (name : List Char)
    (a : Char) : ∃ g, close name '!' (a :: s) = .error g := by
  rcases s with _ | ⟨d, s⟩
  · exact ⟨_, rfl⟩
  · simp only [List.all_cons, Bool.and_eq_true] at hs
    have hd := (ne_brace_of_isPlain hs.1).2
    by_cases hc : d = ':'
    · subst hc
      exact ⟨_, withSpec_of_plain hs.2 name (some a)⟩
    · exact ⟨.noColon, by simp [close, hd, hc]⟩

/-- Plain text has no closing brace for a field that needs one. -/
theorem close_of_plain {r : List Char} {c : Char} (hr : r.all Script.isPlain)
    (hc : c = ':' ∨ c = '!') (name : List Char) : ∃ g, close name c r = .error g := by
  rcases hc with rfl | rfl
  · exact ⟨_, withSpec_of_plain hr name none⟩
  · rcases r with _ | ⟨a, r⟩
    · exact ⟨_, rfl⟩
    · simp only [List.all_cons, Bool.and_eq_true] at hr
      exact close_mark_of_plain hr.2 name a

theorem close_append_of_error {s name r : List Char} {c : Char} {g : FormatFault}
    (hs : s.all Script.isPlain) (h : close name c r = .error g) :
    ∃ g', close name c (r ++ s) = .error g' := by
  by_cases hc : c = ':'
  · subst hc
    refine ⟨g, ?_⟩
    change withSpec name none (r ++ s) = .error g
    rw [withSpec_append_of_plain hs, show withSpec name none r = .error g from h]
    rfl
  · by_cases hm : c = '!'
    · subst hm
      rcases r with _ | ⟨a, _ | ⟨d, r⟩⟩
      · exact close_of_plain hs (.inr rfl) name
      · exact close_mark_of_plain hs name a
      · simp only [close, hc, if_false, if_true, List.cons_append] at h ⊢
        split at h
        · cases h
        · rw [if_neg ‹_›]
          split at h
          · rw [if_pos ‹_›, withSpec_append_of_plain hs, h]
            exact ⟨g, rfl⟩
          · rw [if_neg ‹_›]
            exact ⟨_, rfl⟩
    · simp [close, hc, hm] at h

theorem errorClass_of_close {name r : List Char} {c : Char} {f : FormatFault}
    (h : close name c r = .error f) : f.errorClass = .wrongValue := by
  unfold close at h
  split at h
  · exact errorClass_of_withSpec h
  · split at h
    · split at h
      · cases h
        rfl
      · cases h
        rfl
      · split at h
        · cases h
        · split at h
          · exact errorClass_of_withSpec h
          · cases h
            rfl
    · cases h

/-! ## Fields -/

theorem read_eq_close (cs : List Char) :
    read cs = match readName false cs with
      | .error f => .error f
      | .ok (name, c, r) => close name c r := by
  unfold read close
  rcases readName false cs with f | ⟨name, c, r⟩
  · rfl
  · by_cases hc : c = ':'
    · subst hc
      rfl
    · by_cases hm : c = '!'
      · subst hm
        rcases r with _ | ⟨a, _ | ⟨d, r⟩⟩
        · rfl
        · rfl
        · by_cases hd : d = '}'
          · subst hd
            rfl
          · by_cases hd' : d = ':'
            · subst hd'
              rfl
            · simp [hd, hd']
      · simp [hc, hm]

/-- Plain text behind a complete field is left over. -/
theorem read_append_of_ok {s cs rest : List Char} {f : Field} (hs : s.all Script.isPlain)
    (h : read cs = .ok (f, rest)) : read (cs ++ s) = .ok (f, rest ++ s) := by
  rw [read_eq_close] at h ⊢
  rcases hn : readName false cs with g | ⟨name, c, r⟩
  · rw [hn] at h
    cases h
  · rw [hn] at h
    rw [readName_append_of_ok hn]
    exact close_append_of_ok hs h

/-- Plain text behind a broken field does not mend it. -/
theorem read_append_of_error {s cs : List Char} {g : FormatFault} (hs : s.all Script.isPlain)
    (h : read cs = .error g) : ∃ g', read (cs ++ s) = .error g' := by
  rw [read_eq_close] at h ⊢
  rcases hn : readName false cs with g | ⟨name, c, r⟩
  · rcases hns : readName false (cs ++ s) with g' | ⟨name, c, r⟩
    · exact ⟨g', rfl⟩
    · obtain ⟨hc, hr⟩ := end_of_readName_append hs hn hns
      exact close_of_plain hr hc name
  · rw [hn] at h
    rw [readName_append_of_ok hn]
    exact close_append_of_error hs h

theorem errorClass_of_read {cs : List Char} {f : FormatFault} (h : read cs = .error f) :
    f.errorClass = .wrongValue := by
  rw [read_eq_close] at h
  rcases hn : readName false cs with g | ⟨name, c, r⟩
  · rw [hn] at h
    cases h
    exact errorClass_of_readName hn
  · rw [hn] at h
    exact errorClass_of_close h

end Sgr.Field
