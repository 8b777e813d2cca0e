import Sgr.Failure
import Sgr.Proofs.Running
import Sgr.Proofs.Template.Field

/-!
# Plain text around a template

The escape sequences of a styled text are put around its template before the template is filled.
They have no braces, so what is filled is the content, and the sequences stand around it. This holds
of malformed templates too: a template that fails goes on to fail at the same place, though perhaps
with another description, since the text behind it may fall into a field that was left open.

## Main definitions

* `Script.Extended` — a script with plain characters behind another.
* `Failure.signature` — the class of a failure and that of its cause.

## Main statements

* `Script.extended_ofChars_append` — how the script of a template grows.
* `fill_surround`, `renderTemplate_surround` — what a template gives with plain text around it.
-/

namespace Sgr

namespace Script

/-- The second script is the first with plain characters behind it: they are added to its pieces,
unless a fault in front of them ends the script. Then a fault ends both, each a wrong value. -/
inductive Extended (s : List Char) : Script → Script → Prop where
  | whole (pieces : List Piece) : Extended s ⟨pieces, none⟩ ⟨pieces ++ s.map .char, none⟩
  | broken (pieces : List Piece) {f g : FormatFault} (hf : f.errorClass = .wrongValue)
      (hg : g.errorClass = .wrongValue) : Extended s ⟨pieces, some f⟩ ⟨pieces, some g⟩

theorem Extended.cons {s : List Char} {a b : Script} (h : Extended s a b) (p : Piece) :
    Extended s (a.cons p) (b.cons p) := by
  cases h with
  | whole pieces => exact .whole (p :: pieces)
  | broken pieces hf hg => exact .broken (p :: pieces) hf hg

theorem ofChars_of_plain {s : List Char} (hs : s.all isPlain) :
    ofChars s = ⟨s.map .char, none⟩ := by
  have h := ofChars_append_of_plain hs []
  rw [List.append_nil, ofChars, List.append_nil] at h
  exact h

/-- A field that can be read neither ends at once nor starts with another brace. -/
theorem ofChars_field {r rest : List Char} {f : Field} (h : Field.read r = .ok (f, rest)) :
    ofChars ('{' :: r) = cons (.field f) (ofChars rest) := by
  have hr : r ≠ [] := by
    rintro rfl
    cases h
  have ho : ∀ t, r ≠ '{' :: t := by
    rintro t rfl
    cases h
  rw [ofChars]
  · split <;> simp_all
  · exact hr
  · exact ho

theorem ofChars_broken {r : List Char} {f : FormatFault} (ho : ∀ t, r ≠ '{' :: t)
    (h : Field.read r = .error f) :
    ∃ g, ofChars ('{' :: r) = failed g ∧ g.errorClass = .wrongValue := by
  rcases r with _ | ⟨c, r⟩
  · exact ⟨.loneOpen, by rw [ofChars], rfl⟩
  · refine ⟨f, ?_, Field.errorClass_of_read h⟩
    rw [ofChars]
    · split <;> simp_all
    · simp
    · exact ho

theorem ofChars_close {r : List Char} (hr : ∀ t, r ≠ '}' :: t) :
    ofChars ('}' :: r) = failed .loneClose := by
  rw [ofChars]
  exact hr

theorem append_ne_cons_of_plain {r s : List Char} {c : Char} (hs : s.all isPlain)
    (hc : isPlain c = false) (h : ∀ t, r ≠ c :: t) (t : List Char) : r ++ s ≠ c :: t := by
  rcases r with _ | ⟨d, r⟩
  · rintro rfl
    simp [hc] at hs
  · intro ht
    rw [List.cons_append, List.cons.injEq] at ht
    exact h r (by rw [ht.1])

/-- Plain text behind a template only adds its characters, and mends nothing. -/
theorem extended_ofChars_append {s : List Char} (hs : s.all isPlain) (cs : List Char) :
    Extended s (ofChars cs) (ofChars (cs ++ s)) := by
  induction cs using ofChars.induct with
  | case1 =>
    rw [List.nil_append, ofChars_of_plain hs, ofChars]
    exact .whole []
  | case2 =>
    obtain ⟨g, hg, hc⟩ := ofChars_broken (append_ne_cons_of_plain (r := []) hs rfl (by simp))
      (Field.read_append_of_error hs rfl).choose_spec
    rw [List.cons_append, hg, ofChars]
    exact .broken [] rfl hc
  | case3 r ih =>
    rw [List.cons_append, List.cons_append, ofChars, ofChars]
    exact ih.cons _
  | case4 r ih =>
    rw [List.cons_append, List.cons_append, ofChars, ofChars]
    exact ih.cons _
  | case5 r h =>
    rw [List.cons_append, ofChars_close h,
      ofChars_close (append_ne_cons_of_plain hs rfl h)]
    exact .broken [] rfl rfl
  | case6 r _ ho f hf =>
    obtain ⟨g, hg⟩ := Field.read_append_of_error hs hf
    obtain ⟨g₁, h₁, hc₁⟩ := ofChars_broken ho hf
    obtain ⟨g₂, h₂, hc₂⟩ := ofChars_broken (append_ne_cons_of_plain hs rfl ho) hg
    rw [List.cons_append, h₁, h₂]
    exact .broken [] hc₁ hc₂
  | case7 r _ _ f rest hf _ ih =>
    rw [List.cons_append, ofChars_field hf, ofChars_field (Field.read_append_of_ok hs hf)]
    exact ih.cons _
  | case8 c r _ _ _ hclose hopen ih =>
    have hc : isPlain c := by simpa [isPlain] using ⟨hopen, hclose⟩
    rw [List.cons_append, ofChars_cons_of_plain hc, ofChars_cons_of_plain hc]
    exact ih.cons _

end Script

/-! ## Filling -/

section Filling

variable (w : Writer) (args : Arguments) (expand : Expand)

theorem fillPieces_chars (cs : List Char) (n : Numbering) :
    fillPieces w args expand (cs.map .char) n = pure (cs, n) := by
  induction cs with
  | nil => rfl
  | cons c cs ih => simp only [List.map_cons, fillPieces, ih, pure_bind]

theorem fillPieces_append (ps qs : List Piece) (n : Numbering) :
    fillPieces w args expand (ps ++ qs) n = (do
      let (a, n) ← fillPieces w args expand ps n
      let (b, n) ← fillPieces w args expand qs n
      return (a ++ b, n)) := by
  induction ps generalizing n with
  | nil => simp [fillPieces]
  | cons p ps ih =>
    cases p with
    | char c => simp [fillPieces, ih]
    | field f => simp [fillPieces, ih]

theorem fillScript_front (s : List Char) (a : Script) (n : Numbering) :
    fillScript w args expand ⟨s.map .char ++ a.pieces, a.fault⟩ n = (do
      let (cs, n) ← fillScript w args expand a n
      return (s ++ cs, n)) := by
  rcases h : a.fault with _ | f <;> simp [fillScript, fillPieces_append, fillPieces_chars, h]

theorem fillScript_extended {s : List Char} {a b : Script} (h : Script.Extended s a b) {τ : Type}
    {σ : TemplateError → τ}
    (hσ : ∀ f g, f.errorClass = .wrongValue → g.errorClass = .wrongValue →
      σ (.fault f) = σ (.fault g)) (n : Numbering) :
    (fillScript w args expand b n).mapError σ = (do
      let (cs, n) ← (fillScript w args expand a n).mapError σ
      return (cs ++ s, n)) := by
  cases h with
  | whole pieces => simp [fillScript, fillPieces_append, fillPieces_chars]
  | broken pieces hf hg => simp [fillScript, hσ _ _ hf hg]

/-- Plain text around a template stands around what it gives. -/
theorem fill_surround {o c : List Char} (ho : o.all Script.isPlain) (hc : c.all Script.isPlain)
    {τ : Type} {σ : TemplateError → τ}
    (hσ : ∀ f g, f.errorClass = .wrongValue → g.errorClass = .wrongValue →
      σ (.fault f) = σ (.fault g)) (t : List Char) :
    (fill w args (o ++ t ++ c)).mapError σ = (do
      return o ++ (← (fill w args t).mapError σ) ++ c) := by
  have h := Script.extended_ofChars_append hc t
  simp only [fill, List.append_assoc, Script.ofChars_append_of_plain ho, fillScript_front,
    bind_assoc, InContext.mapError_bind, fillScript_extended _ _ _ h hσ]
  simp

end Filling

/-! ## Rendering -/

/-- What a caller can tell of a failure without reading its text: its class, and that of its
cause. -/
abbrev Signature := ErrorClass × Option ErrorClass

/-- The class of a failure and that of its cause. -/
def Failure.signature (f : Failure) : Signature :=
  (f.errorClass, f.cause?)

/-- The signature of a failed template. -/
def TemplateError.signature (e : TemplateError) : Signature :=
  (Failure.template e).signature

theorem TemplateError.signature_within (e : TemplateError) (t t' : String) :
    (e.within t).signature = (e.within t').signature := by
  cases e with
  | mismatch s f => rfl
  | fault f =>
    by_cases h : f.isMismatch
    · simp only [within, h, if_true]
      rfl
    · simp [within, h]

theorem TemplateError.signature_within_wrongValue {f : FormatFault}
    (h : f.errorClass = .wrongValue) (t : String) :
    ((fault f).within t).signature = (.grammar, some .wrongValue) := by
  have hm : f.isMismatch := by rw [FormatFault.isMismatch, h]
  simp [within, hm, signature, Failure.signature, Failure.errorClass, errorClass, Failure.cause?, h]

/-- What a template gives with plain text around it, up to the descriptions of failures. -/
theorem renderTemplate_surround {o c : List Char} (ho : o.all Script.isPlain)
    (hc : c.all Script.isPlain) (t : String) (args : Arguments) :
    (renderTemplate (String.ofList o ++ t ++ String.ofList c) args).mapError
        TemplateError.signature = (do
      let s ← (renderTemplate t args).mapError TemplateError.signature
      return String.ofList o ++ s ++ String.ofList c) := by
  have same (full : String) : TemplateError.signature ∘ TemplateError.within full =
      TemplateError.signature ∘ TemplateError.within t :=
    funext fun e => TemplateError.signature_within e full t
  have wrong (f g : FormatFault) (hf : f.errorClass = .wrongValue)
      (hg : g.errorClass = .wrongValue) :
      (TemplateError.signature ∘ TemplateError.within t) (.fault f) =
        (TemplateError.signature ∘ TemplateError.within t) (.fault g) := by
    simp only [Function.comp_apply, TemplateError.signature_within_wrongValue, hf, hg]
  simp only [renderTemplate, renderAt, InContext.mapError_bind, InContext.mapError_mapError, same,
    String.toList_append, String.toList_ofList]
  rw [fill_surround _ _ ho hc wrong]
  simp [String.ofList_append, String.append_assoc]

end Sgr
