import Sgr.Proofs.Content.Request
import Sgr.Proofs.Sequence
import Sgr.Proofs.Template.Surround

/-!
# One text in three output modes

A template can be filled at once, filled at once as constant text, or kept and filled when it is
read. The sequences are part of the template in each mode, and since they are plain text they end up
around what the template gives by itself. The modes therefore give the same text and fail alike,
except that constant text refuses arguments that can change.

## Main definitions

* `Request.outcome` — what a request gives, up to the descriptions of failures.
* `Resolution.outcome` — a template filled, with the sequences of a resolution around its text.

## Main statements

* `wrap_string`, `wrap_format`, `wrap_constFormat` — the modes one by one.
* `template_modes_agree` — the modes of a request together.
-/

namespace Sgr

/-- The signature of a failed request. -/
def RequestError.signature (e : RequestError) : Signature :=
  e.failure.signature

/-- What a request gives, up to the descriptions of failures. -/
def Request.outcome (store : Store) (q : Request) : InContext Signature Styled :=
  (q.render store).mapError RequestError.signature

/-- What a template gives by itself with the sequences of a resolution around it, up to the
descriptions of failures. -/
def Resolution.outcome (r : Resolution) (t : String) (args : Arguments) :
    InContext Signature String := do
  let s ← (renderTemplate t args).mapError TemplateError.signature
  return String.ofList r.opening ++ s ++ String.ofList r.closing

/-- Failing templates keep their signature in a request. -/
theorem signature_template : RequestError.signature ∘ RequestError.template =
    TemplateError.signature := rfl

section Modes

variable (r : Resolution) {store : Store} {template : Value} {t : String} (args : Arguments)

/-- The template with the sequences of a resolution in it fills like the template itself. -/
theorem renderTemplate_between (t : String) :
    (renderTemplate (String.ofList r.opening ++ t ++ String.ofList r.closing) args).mapError
      TemplateError.signature = r.outcome t args :=
  renderTemplate_surround (plain_sgr r.set) (plain_sgr r.reset) t args

theorem wrap_string (ht : (store.view template).text? = some t) :
    (r.wrap store (.template template args) .string).mapError RequestError.signature =
      Styled.text <$> r.outcome t (store.viewArguments args) := by
  simp only [Resolution.wrap, assemble, ht, InContext.mapError_bind, InContext.mapError_mapError,
    InContext.mapError_pure, signature_template, renderTemplate_between, map_eq_pure_bind]

theorem wrap_format (ht : (store.view template).text? = some t) :
    r.wrap store (.template template args) .format =
      pure (.deferred (String.ofList r.opening ++ t ++ String.ofList r.closing) args) := by
  simp only [Resolution.wrap, assemble, ht]

/-- An argument can change if its contents can, wherever it is given. -/
theorem mutable?_viewArguments :
    (store.viewArguments args).mutable? = none ↔
      ∀ v ∈ args.positional ++ args.named.map Prod.snd, (store.view v).isConstant := by
  simp only [Arguments.mutable?, Store.viewArguments, Store.viewAll_eq_map, Store.viewNamed,
    List.find?_eq_none, List.mem_append, List.mem_map, List.map_map]
  grind

theorem formatConstant_eq {args : Arguments} (hn : ∀ a ∈ args.named, a.1 ≠ "template")
    (t : String) :
    formatConstant (.text t) args =
      match args.mutable? with
      | some v => throw (.content (.notConstant v))
      | none => (renderTemplate t args).mapError .template :=
  formatConstant_of_text? rfl hn

theorem wrap_constFormat (ht : (store.view template).text? = some t)
    (hn : ∀ a ∈ args.named, a.1 ≠ "template") :
    (r.wrap store (.template template args) .constFormat).mapError RequestError.signature =
      if ∀ v ∈ args.positional ++ args.named.map Prod.snd, (store.view v).isConstant then
        Styled.constText <$> r.outcome t (store.viewArguments args)
      else throw (.contentType, none) := by
  have hv : ∀ a ∈ (store.viewArguments args).named, a.1 ≠ "template" := by
    simp only [Store.viewArguments, Store.viewNamed, List.mem_map]
    rintro _ ⟨a, ha, rfl⟩
    exact hn a ha
  simp only [Resolution.wrap, assemble, ht, formatConstant_eq hv, ← mutable?_viewArguments]
  rcases h : (store.viewArguments args).mutable? with _ | v
  · simp only [if_true, InContext.mapError_bind, InContext.mapError_mapError,
      InContext.mapError_pure, signature_template, renderTemplate_between, map_eq_pure_bind]
  · simp only [reduceCtorEq, if_false]
    rfl

end Modes

/-- Every mode that fills a template gives the text of the template between the sequences, or fails
as the template does. A deferred text does so when it is read while its arguments show the same, and
constant text does so unless an argument can change. -/
theorem template_modes_agree {store : Store} {template : Value} {t : String}
    (ht : (store.view template).text? = some t) (args : Arguments)
    (hn : ∀ a ∈ args.named, a.1 ≠ "template") (k : Kind) (ks : List Kind) (revert : RevertMode) :
    let outcome (output : OutputMode) :=
      Request.outcome store ⟨k :: ks, ⟨output, revert⟩, .template template args⟩
    let filled := (Resolution.ofKinds (k :: ks) revert).outcome t (store.viewArguments args)
    outcome .string = Styled.text <$> filled ∧
    (∃ full, outcome .format = pure (.deferred full args) ∧
      ∀ later : Store, later.viewArguments args = store.viewArguments args →
        (later.view (Styled.deferred full args).value).render.mapError TemplateError.signature =
          filled) ∧
    outcome .constFormat =
      if ∀ v ∈ args.positional ++ args.named.map Prod.snd, (store.view v).isConstant then
        Styled.constText <$> filled
      else throw (.contentType, none) := by
  intro outcome filled
  have houtcome (output : OutputMode) : outcome output =
      ((Resolution.ofKinds (k :: ks) revert).wrap store (.template template args) output).mapError
        RequestError.signature := by
    simp only [outcome, Request.outcome, render_of_kinds]
  have hformat := wrap_format (Resolution.ofKinds (k :: ks) revert) args ht
  refine ⟨?_, ⟨_, by rw [houtcome, hformat, InContext.mapError_pure], ?_⟩, ?_⟩
  · rw [houtcome, wrap_string _ _ ht]
  · intro later hlater
    rw [Store.view_deferred, hlater, render_deferred, renderTemplate_between]
  · rw [houtcome, wrap_constFormat _ _ ht hn]

/-- A bold template without fields, in each mode. -/
theorem template_modes_agree_bold :
    let args : Arguments := ⟨[], [("x", .int 5)]⟩
    let outcome (output : OutputMode) :=
      Request.outcome {} ⟨[.style .bold], ⟨output, .single⟩, .template (.text "hi") args⟩
    outcome .string = pure (.text "\x1b[1mhi\x1b[22m") ∧
    (∃ full, outcome .format = pure (.deferred full args) ∧
      (Store.view {} (Styled.deferred full args).value).render.mapError TemplateError.signature =
        pure "\x1b[1mhi\x1b[22m") ∧
    outcome .constFormat = pure (.constText "\x1b[1mhi\x1b[22m") := by
  intro args outcome
  have hfilled : (Resolution.ofKinds [.style .bold] .single).outcome "hi"
      (Store.viewArguments {} args) = pure "\x1b[1mhi\x1b[22m" := by
    have hplain : Script.ofChars "hi".toList = ⟨"hi".toList.map .char, none⟩ :=
      Script.ofChars_of_plain rfl
    rw [Resolution.outcome, renderTemplate, renderAt, fill, hplain, fillScript, fillPieces_chars]
    rfl
  have hconstant : ∀ v ∈ args.positional ++ args.named.map Prod.snd,
      (Store.view {} v).isConstant := by
    simp [args, Store.view, Store.expand, Value.isConstant]
  have ht : (Store.view {} (.text "hi")).text? = some "hi" := by
    rw [Store.view_text]
    rfl
  obtain ⟨hstring, ⟨full, hformat, hread⟩, hconst⟩ :=
    template_modes_agree ht args (by simp [args]) (.style .bold) [] .single
  rw [hfilled] at hstring
  rw [if_pos hconstant, hfilled] at hconst
  exact ⟨hstring, ⟨full, hformat, (hread {} rfl).trans hfilled⟩, hconst⟩

end Sgr
