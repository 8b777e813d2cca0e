import Mathlib
import Sgr.Proofs.Content.Request
import Sgr.Proofs.Sequence
import Sgr.Proofs.Template.Depth
import Sgr.Proofs.Template.Surround

/-!
# A failure inside deferred texts surfaces

A template names itself in a failure that is its own, so that a caller sees which template did not
match its arguments. A failure that comes from a deferred text among the arguments is described
already, and no template around it describes it again. So however many deferred texts are inside one
another, the failure of the innermost one is that of the outermost one, and of a request that shows
it.

A field with a conversion renders its value before its own specification is filled; one without does
so afterwards. So in the latter case the specification has to be filled without a failure, as it is
if it holds no fields and its braces match.

## Main definitions

* `Field.ShowsText` — a field that renders its value before anything else can fail.
* `Selects` — the first field of a template shows a value in this way.
* `Chain` — deferred texts, each of which selects the one before.

## Main statements

* `within_of_render` — a failure of a deferred text is described.
* `Selects.renderTemplate_error` — a template fails as the value does that its first field shows.
* `Chain.render_error` — the failure of the first text of a chain is that of the last.
-/

namespace Sgr

variable {c c' : Context} {t : String} {args : Arguments} {v : Value} {e : TemplateError}

/-! ## Described failures -/

theorem TemplateError.within_within (e : TemplateError) (t t' : String) :
    (e.within t).within t' = e.within t := by
  cases e with
  | mismatch s f => rfl
  | fault f =>
    by_cases h : f.isMismatch
    · simp only [within, h, if_true]
    · simp only [within, h, if_false, Bool.false_eq_true]

/-- A failure of a template is described. -/
theorem within_of_renderTemplate (h : ((renderTemplate t args).run.run c).1 = .error e)
    (t' : String) : e.within t' = e := by
  have hends : InContext.Ends (fun _ => True) (fun e => e.within t' = e) (renderTemplate t args) := by
    rw [renderTemplate_eq]
    refine InContext.Ends.bind (P := fun _ => True) ?_ fun _ _ => .pure trivial
    refine InContext.Ends.mapError (D := fun _ => True) (fun c => ?_)
      fun e _ => e.within_within t t'
    exact .of_forall (fun _ _ => trivial) fun _ _ => trivial
  have hend := hends c
  rw [h] at hend
  exact hend

/-- A failure of a deferred text is described, so no template around it describes it again. -/
theorem within_of_render {template positional named : Value}
    (h : ((Value.deferred template positional named).render.run.run c).1 = .error e) (t' : String) :
    e.within t' = e := by
  cases ht : template.text? with
  | none =>
    simp only [Value.render, writer, writerFor, renderParts, ht] at h
    cases h
    rfl
  | some t =>
    cases hparts : Arguments.ofParts positional named with
    | error f =>
      simp only [Value.render, writer, writerFor, renderParts, ht, hparts] at h
      cases h
      exact TemplateError.within_within _ t t'
    | ok args =>
      rw [render_deferred_eq ht hparts] at h
      exact within_of_renderTemplate h t'

/-! ## The first field -/

/-- Whether a field renders its value before anything else can fail: it converts the value to its own
text, or its specification holds no fields and is well formed. -/
def Field.ShowsText (f : Field) : Prop :=
  f.conversion = some 's' ∨
    f.conversion = none ∧ ∃ cs : List Char, Script.ofChars f.spec = ⟨cs.map .char, none⟩

/-- The first field of a template finds a value among arguments and shows its text. -/
def Selects (c : Context) (t : String) (args : Arguments) (v : Value) : Prop :=
  ∃ (front : List Char) (f : Field) (rest : List Piece) (n : Numbering),
    (Script.ofChars t.toList).pieces = front.map .char ++ .field f :: rest ∧ f.ShowsText ∧
      ((args.find f.name .unset).run.run c).1 = .ok (v, n)

/-- Plain text around a template leaves its first field as it is. -/
theorem Selects.surround (h : Selects c t args v) {o cl : List Char} (ho : o.all Script.isPlain)
    (hcl : cl.all Script.isPlain) :
    Selects c (String.ofList o ++ t ++ String.ofList cl) args v := by
  obtain ⟨front, f, rest, n, hpieces, hf, hfind⟩ := h
  obtain ⟨more, hmore⟩ : ∃ more, (Script.ofChars (t.toList ++ cl)).pieces =
      (Script.ofChars t.toList).pieces ++ more := by
    have hextended := Script.extended_ofChars_append hcl t.toList
    generalize Script.ofChars (t.toList ++ cl) = b at hextended
    generalize Script.ofChars t.toList = a at hextended
    cases hextended with
    | whole pieces => exact ⟨_, rfl⟩
    | broken pieces => exact ⟨[], (List.append_nil _).symm⟩
  refine ⟨o ++ front, f, rest ++ more, n, ?_, hf, hfind⟩
  rw [String.toList_append, String.toList_append, String.toList_ofList, String.toList_ofList,
    List.append_assoc, Script.ofChars_append_of_plain ho, hmore, hpieces]
  simp only [List.map_append, List.append_assoc, List.cons_append]

/-- A template fails as its first field does. -/
theorem run_fill_error {w : Writer} {front : List Char} {f : Field} {rest : List Piece}
    {t : List Char} (hpieces : (Script.ofChars t).pieces = front.map .char ++ .field f :: rest)
    (h : (fillField w args (fillSpec w args) f .unset).run.run c = (.error e, c')) :
    (fill w args t).run.run c = (.error e, c') := by
  have hfirst : (fillPieces w args (fillSpec w args) (.field f :: rest) .unset).run.run c =
      (.error e, c') := run_bind_error h _
  have hall : (fillPieces w args (fillSpec w args) (Script.ofChars t).pieces .unset).run.run c =
      (.error e, c') := by
    rw [hpieces, fillPieces_append, fillPieces_chars, pure_bind]
    exact run_bind_error hfirst _
  exact run_bind_error (run_bind_error hall _) _

/-- A specification without fields stays as its characters are. -/
theorem fillSpec_chars (w : Writer) (args : Arguments) {spec cs : List Char}
    (h : Script.ofChars spec = ⟨cs.map .char, none⟩) (n : Numbering) :
    fillSpec w args spec n = pure (cs, n) := by
  simp only [fillSpec, h, fillScript, fillPieces_chars, pure_bind]

/-- The text of a value under a specification fails as its text does. -/
theorem run_format_error {template positional named : Value}
    (h : (Value.deferred template positional named).render.run.run c = (.error e, c'))
    (spec : List Char) :
    ((Value.deferred template positional named).format spec).run.run c = (.error e, c') :=
  run_bind_error h _

/-- A field that shows the text of a deferred text fails as that does. -/
theorem run_fillField_error {f : Field} (hf : f.ShowsText) {template positional named : Value}
    {n : Numbering}
    (hfind : args.find f.name .unset = pure (.deferred template positional named, n))
    (h : (Value.deferred template positional named).render.run.run c = (.error e, c')) :
    (fillField rendering args (fillSpec rendering args) f .unset).run.run c = (.error e, c') := by
  unfold fillField
  rw [hfind, InContext.mapError_pure, pure_bind]
  rcases hf with hconv | ⟨hconv, cs, hcs⟩
  · rw [hconv]
    exact run_bind_error (run_bind_error h _) _
  · rw [hconv]
    dsimp only [Writer.convert]
    rw [pure_bind]
    split
    · rw [fillSpec_chars _ _ hcs, pure_bind]
      exact run_bind_error (run_format_error h cs) _
    · rw [pure_bind]
      exact run_bind_error (run_format_error h f.spec) _

/-- A template fails as the deferred text does that its first field shows, and does not name itself. -/
theorem Selects.renderTemplate_error {template positional named : Value}
    (hselects : Selects c t args (.deferred template positional named))
    (h : (Value.deferred template positional named).render.run.run c = (.error e, c')) :
    (renderTemplate t args).run.run c = (.error e, c') := by
  obtain ⟨front, f, rest, n, hpieces, hf, hfound⟩ := hselects
  have hfind : args.find f.name .unset = pure (.deferred template positional named, n) :=
    Arguments.find_eq_pure (c := c) (fun h => h) (Prod.ext hfound rfl)
  have hfill := run_fill_error hpieces (run_fillField_error hf hfind h)
  rw [renderTemplate_eq]
  refine run_bind_error ?_ _
  rw [InContext.run_mapError, hfill]
  exact congrArg (fun e => (Except.error e, c')) (within_of_render (by rw [h]) t)

/-! ## Chains -/

/-- Deferred texts, each of which selects the one before. -/
inductive Chain (c : Context) (v₀ : Value) : Value → Prop where
  | refl : Chain c v₀ v₀
  | next {v template positional named : Value} {t : String} {args : Arguments} :
    Chain c v₀ v → template.text? = some t → Arguments.ofParts positional named = .ok args →
      Selects c t args v → Chain c v₀ (.deferred template positional named)

section Chains

variable {template₀ positional₀ named₀ : Value}

/-- A chain that starts with a deferred text ends with one. -/
theorem Chain.exists_deferred (h : Chain c (.deferred template₀ positional₀ named₀) v) :
    ∃ template positional named, v = .deferred template positional named := by
  cases h with
  | refl => exact ⟨_, _, _, rfl⟩
  | next => exact ⟨_, _, _, rfl⟩

/-- The failure of the first text of a chain is that of the last. -/
theorem Chain.render_error (h : Chain c (.deferred template₀ positional₀ named₀) v)
    (hfails : (Value.deferred template₀ positional₀ named₀).render.run.run c = (.error e, c')) :
    v.render.run.run c = (.error e, c') := by
  induction h with
  | refl => exact hfails
  | next hchain ht hparts hselects ih =>
    obtain ⟨template, positional, named, rfl⟩ := hchain.exists_deferred
    rw [render_deferred_eq ht hparts]
    exact hselects.renderTemplate_error ih

end Chains

/-! ## In the world -/

section Surfacing

variable {w : World} {template₀ positional₀ named₀ : Value}

/-- Where the first text of a chain fails, the last one fails alike, at whatever distance it is: it
fails with the same failure, and so does reading a value that is looked up as the last text, and every
request for a text with a template whose first field shows it. -/
theorem failure_surfaces (hchain : Chain w.toContext (.deferred template₀ positional₀ named₀) v)
    (hfails : (Value.deferred template₀ positional₀ named₀).render.run.run w.toContext =
      (.error e, c')) :
    let failed {α : Type} : Except Failure α × World :=
      (.error (.template e), { w with toContext := c' })
    v.render.run.run w.toContext = (.error e, c') ∧
    (∀ r, w.store.viewParts r = v → (renderValue r).run.run w = failed) ∧
    ∀ (k : Kind) (ks : List Kind) (revert : RevertMode) (template : Value) (t : String)
      (args : Arguments), template.text? = some t →
      Selects w.toContext t (w.store.viewArguments args) v →
      (Action.inContext RequestError.failure (Request.render w.store
        ⟨k :: ks, ⟨.string, revert⟩, .template template args⟩)).run.run w = failed := by
  intro failed
  have hlast := hchain.render_error hfails
  refine ⟨hlast, ?_, ?_⟩
  · rintro r rfl
    rw [renderValue, run_bind_ok (run_get w), Action.run_inContext, hlast]
    rfl
  · intro k ks revert template t args ht hselects
    obtain ⟨template', positional', named', rfl⟩ := hchain.exists_deferred
    let r := Resolution.ofKinds (k :: ks) revert
    have hkinds : Resolution.ofKinds? (k :: ks) revert = .ok r := rfl
    have hwithin : Selects _ (String.ofList r.opening ++ t ++ String.ofList r.closing) _ _ :=
      hselects.surround (plain_sgr r.set) (plain_sgr r.reset)
    have hfilled := hwithin.renderTemplate_error hlast
    have hrequest : (Request.render w.store ⟨k :: ks, ⟨.string, revert⟩, .template template args⟩
        ).run.run w.toContext = (.error (.template e), c') := by
      rw [render_string ht hkinds, map_eq_pure_bind]
      refine run_bind_error ?_ _
      rw [InContext.run_mapError]
      exact congrArg (fun r => (r.1.mapError RequestError.template, r.2)) hfilled
    rw [Action.run_inContext, hrequest]
    rfl

end Surfacing

/-- A text with a missing argument inside two others, one of which pads it and one of which converts
it, and a request that shows the outer one. -/
theorem failure_surfaces_missing :
    let w : World := { store := ⟨[
      .deferred (.text "\x7bmissing\x7d") (.tuple []) (.dict []),
      .deferred (.text "a\x7b:>9\x7d") (.tuple [.cell 0]) (.dict []),
      .deferred (.text "\x7b!s:\x7b\x7d\x7d") (.tuple [.cell 1]) (.dict [])]⟩ }
    let failed {α : Type} : Except Failure α × World :=
      (.error (.template (.mismatch "\x7bmissing\x7d" (.missing "missing"))), w)
    (renderValue (.cell 2)).run.run w = failed ∧
      (Action.inContext RequestError.failure (Request.render w.store
        ⟨[.style .bold], ⟨.string, .single⟩, .template (.text "\x7b\x7d") ⟨[.cell 2], []⟩⟩)).run.run w =
          failed := by
  intro w failed
  let v₀ : Value := .deferred (.text "\x7bmissing\x7d") (.tuple []) (.dict [])
  let v₁ : Value := .deferred (.text "a\x7b:>9\x7d") (.tuple [v₀]) (.dict [])
  let v₂ : Value := .deferred (.text "\x7b!s:\x7b\x7d\x7d") (.tuple [v₁]) (.dict [])
  have h₀ : v₀.render.run.run w.toContext =
      (.error (.mismatch "\x7bmissing\x7d" (.missing "missing")), w.toContext) := by cbv
  have selects₀ : Selects w.toContext "a\x7b:>9\x7d" ⟨[v₀], []⟩ v₀ :=
    ⟨['a'], ⟨[], none, ['>', '9'], false⟩, [], .automatic 1, by cbv,
      .inr ⟨rfl, ['>', '9'], by cbv⟩, by cbv⟩
  have selects₁ : Selects w.toContext "\x7b!s:\x7b\x7d\x7d" ⟨[v₁], []⟩ v₁ :=
    ⟨[], ⟨[], some 's', ['\x7b', '\x7d'], true⟩, [], .automatic 1, by cbv, .inl rfl, by cbv⟩
  have selects₂ : Selects w.toContext "\x7b\x7d" (w.store.viewArguments ⟨[.cell 2], []⟩) v₂ :=
    ⟨[], ⟨[], none, [], false⟩, [], .automatic 1, by cbv, .inr ⟨rfl, [], by cbv⟩, by cbv⟩
  have hchain : Chain w.toContext v₀ v₂ :=
    .next (.next .refl rfl rfl selects₀) rfl rfl selects₁
  obtain ⟨-, hread, hrequest⟩ := failure_surfaces hchain h₀
  exact ⟨hread (.cell 2) (by cbv), hrequest _ [] .single _ _ _ rfl selects₂⟩

/-- A specification with braces that do not match fails before the value is rendered that its field
shows, though no field is in it. -/
theorem malformed_spec_precedes :
    let v₀ : Value := .deferred (.text "\x7bmissing\x7d") (.tuple []) (.dict [])
    let t := "\x7b:\x7b\x7b \x7dx\x7d\x7d"
    let v₁ : Value := .deferred (.text t) (.tuple [v₀]) (.dict [])
    (∃ (f : Field) (rest : List Piece) (n : Numbering) (cs : List Char),
      (Script.ofChars t.toList).pieces = .field f :: rest ∧ f.conversion = none ∧
        (Script.ofChars f.spec).pieces = cs.map .char ∧
        ((Arguments.find ⟨[v₀], []⟩ f.name .unset).run.run {}).1 = .ok (v₀, n)) ∧
      ∃ e₀ e₁ : TemplateError, (v₀.render.run.run {}).1 = .error e₀ ∧
        (v₁.render.run.run {}).1 = .error e₁ ∧ e₀.message ≠ e₁.message := by
  intro v₀ t v₁
  refine ⟨⟨⟨[], none, ['\x7b', '\x7b', ' ', '\x7d', 'x', '\x7d'], true⟩, [], .automatic 1,
    ['\x7b', ' '], by cbv, rfl, by cbv, by cbv⟩,
    .mismatch "\x7bmissing\x7d" (.missing "missing"), .mismatch t .loneClose, by cbv, by cbv, ?_⟩
  decide

end Sgr
