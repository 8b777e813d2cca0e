import Sgr.Template.Fault

/-!
# The pieces of a template

A template is text with fields in braces; a doubled brace stands for one brace. A field has a name,
perhaps a conversion after `!`, and perhaps a format specification after `:`, which may hold fields
of its own.

A template is filled from left to right, so what is wrong further right shows only after everything
in front of it was filled. The script of a template is therefore its pieces up to the first fault,
and that fault.

## Main definitions

* `Field` — the parts of a field, as text.
* `Script` — pieces and fault.
* `Script.ofChars` — the script of a template.

## Main statements

* `Script.ofChars_append_of_plain` — text without braces in front of a template only adds its
  characters.
-/

namespace Sgr

/-- A field of a template. `isNested` says that the specification holds fields. -/
structure Field where
  name : List Char
  conversion : Option Char
  spec : List Char
  isNested : Bool
  deriving DecidableEq, Repr, Inhabited

namespace Field

/-- Reads the name of a field: the name, the character that ends it, and the rest. Inside square
brackets nothing but the closing one counts. -/
def readName (inBrackets : Bool) : List Char → Except FormatFault (List Char × Char × List Char)
  | [] => .error .unclosedField
  | c :: r =>
    if inBrackets then
      (readName (c ≠ ']') r).map fun (name, rest) => (c :: name, rest)
    else if c = '{' then .error .openInName
    else if c = '}' ∨ c = ':' ∨ c = '!' then .ok ([], c, r)
    else (readName (c = '[') r).map fun (name, rest) => (c :: name, rest)

/-- Reads a specification up to the brace that closes the field, with `depth` braces open inside. -/
def readSpec (depth : Nat) : List Char → Except FormatFault (List Char × List Char)
  | [] => .error .unmatchedOpen
  | c :: r =>
    if c = '}' ∧ depth = 0 then .ok ([], r)
    else
      (readSpec (if c = '{' then depth + 1 else if c = '}' then depth - 1 else depth) r).map
        fun (spec, rest) => (c :: spec, rest)

/-- The field of a name, a conversion and what follows the colon. -/
def withSpec (name : List Char) (conversion : Option Char) (cs : List Char) :
    Except FormatFault (Field × List Char) :=
  (readSpec 0 cs).map fun (spec, rest) => (⟨name, conversion, spec, spec.contains '{'⟩, rest)

/-- Reads what follows the opening brace of a field: the field and the rest. -/
def read (cs : List Char) : Except FormatFault (Field × List Char) :=
  match readName false cs with
  | .error f => .error f
  | .ok (name, ':', r) => withSpec name none r
  | .ok (_, '!', []) => .error .noConversion
  | .ok (_, '!', [_]) => .error .unmatchedOpen
  | .ok (name, '!', c :: '}' :: r) => .ok (⟨name, some c, [], false⟩, r)
  | .ok (name, '!', c :: ':' :: r) => withSpec name (some c) r
  | .ok (_, '!', _) => .error .noColon
  | .ok (name, _, r) => .ok (⟨name, none, [], false⟩, r)

theorem exists_of_map_eq_ok {ε α β : Type} {f : α → β} {x : Except ε α} {b : β}
    (h : x.map f = .ok b) : ∃ a, x = .ok a ∧ f a = b := by
  cases x with
  | error e => simp [Except.map] at h
  | ok a => exact ⟨a, rfl, by simpa [Except.map] using h⟩

theorem length_readName {inBrackets : Bool} {cs name r : List Char} {c : Char}
    (h : readName inBrackets cs = .ok (name, c, r)) : r.length < cs.length := by
  induction cs generalizing inBrackets name with
  | nil => simp [readName] at h
  | cons a cs ih =>
    unfold readName at h
    split at h
    · obtain ⟨⟨n, d, s⟩, hr, hs⟩ := exists_of_map_eq_ok h
      cases hs
      exact Nat.lt_succ_of_lt (ih hr)
    · split at h
      · simp at h
      · split at h
        · cases h
          simp
        · obtain ⟨⟨n, d, s⟩, hr, hs⟩ := exists_of_map_eq_ok h
          cases hs
          exact Nat.lt_succ_of_lt (ih hr)

theorem length_readSpec {depth : Nat} {cs spec r : List Char}
    (h : readSpec depth cs = .ok (spec, r)) : r.length < cs.length := by
  induction cs generalizing depth spec with
  | nil => simp [readSpec] at h
  | cons a cs ih =>
    unfold readSpec at h
    split at h
    · cases h
      simp
    · obtain ⟨⟨t, s⟩, hr, hs⟩ := exists_of_map_eq_ok h
      cases hs
      exact Nat.lt_succ_of_lt (ih hr)

theorem length_withSpec {name cs r : List Char} {conversion : Option Char} {f : Field}
    (h : withSpec name conversion cs = .ok (f, r)) : r.length < cs.length := by
  obtain ⟨⟨t, s⟩, hr, hs⟩ := exists_of_map_eq_ok h
  cases hs
  exact length_readSpec hr

theorem length_read {cs r : List Char} {f : Field} (h : read cs = .ok (f, r)) :
    r.length < cs.length := by
  unfold read at h
  split at h
  · simp at h
  · next hn => exact Nat.lt_trans (length_withSpec h) (length_readName hn)
  · simp at h
  · simp at h
  · next hn =>
    have := length_readName hn
    simp only [List.length_cons] at this
    simp at h
    rw [← h.2]
    omega
  · next hn =>
    have := length_readName hn
    simp only [List.length_cons] at this
    have := length_withSpec h
    omega
  · simp at h
  · next hn =>
    simp at h
    rw [← h.2]
    exact length_readName hn

end Field

/-- A piece of a template: a character that stands for itself, or a field. -/
inductive Piece where
  | char (c : Char)
  | field (f : Field)
  deriving DecidableEq, Repr, Inhabited

/-- The pieces of a template up to the first fault, and that fault. -/
structure Script where
  pieces : List Piece
  fault : Option FormatFault
  deriving Inhabited

namespace Script

/-- A script with a piece in front. -/
def cons (p : Piece) (s : Script) : Script :=
  ⟨p :: s.pieces, s.fault⟩

/-- A script that is nothing but a fault. -/
def failed (f : FormatFault) : Script := ⟨[], some f⟩

/-- The script of a template. -/
def ofChars : List Char → Script
  | [] => ⟨[], none⟩
  | ['{'] => failed .loneOpen
  | '{' :: '{' :: r => cons (.char '{') (ofChars r)
  | '}' :: '}' :: r => cons (.char '}') (ofChars r)
  | '}' :: _ => failed .loneClose
  | '{' :: r =>
    match h : Field.read r with
    | .error f => failed f
    | .ok (f, rest) =>
      have := Field.length_read h
      cons (.field f) (ofChars rest)
  | c :: r => cons (.char c) (ofChars r)
termination_by cs => cs.length
decreasing_by all_goals simp_all <;> omega

/-- Whether a character is no brace. -/
def isPlain (c : Char) : Bool :=
  c ≠ '{' && c ≠ '}'

/-- A character that is no brace stands for itself. -/
theorem ofChars_cons_of_plain {c : Char} (h : isPlain c) (r : List Char) :
    ofChars (c :: r) = cons (.char c) (ofChars r) := by
  simp [isPlain] at h
  rw [ofChars] <;> simp_all

/-- Text without braces in front of a template only adds its characters. -/
theorem ofChars_append_of_plain {cs : List Char} (h : cs.all isPlain) (r : List Char) :
    ofChars (cs ++ r) = ⟨cs.map .char ++ (ofChars r).pieces, (ofChars r).fault⟩ := by
  induction cs with
  | nil => rfl
  | cons c cs ih =>
    simp only [List.all_cons, Bool.and_eq_true] at h
    rw [List.cons_append, ofChars_cons_of_plain h.1, ih h.2]
    rfl

end Script

end Sgr
