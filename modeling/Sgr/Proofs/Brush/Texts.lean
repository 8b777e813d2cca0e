import Sgr.Proofs.Content.Request
import Sgr.Proofs.Styling
import Sgr.Proofs.Template.Silent
import Sgr.Proofs.Template.Texts

/-!
# Calls with texts

A command line has nothing to style but texts. There is no cell to look up in a text and no brush to
find, so what a call with texts gives, and what it shows when it is read, depends on the brush and
on whether constant text is allowed, and on nothing else.

## Main definitions

* `shownCall` — a call together with the text of what it gives.

## Main statements

* `Brush.call_store`, `Brush.call_computes` — styling texts is the same result in every store.
* `run_shownCall` — a call with texts and its text.
-/

namespace Sgr

variable {vs : List Value} {keys : Bool}

/-! ## Texts -/

theorem Value.isSilent_of_text? {v : Value} (h : v.text?.isSome) : v.isSilent keys := by
  cases v <;> first | rfl | cases h

theorem allTexts_call (sigils : List Sigil) (content : List String) :
    AllTexts (sigils.map .sigil ++ content.map .text) := by
  intro v hv
  rcases List.mem_append.mp hv with hv | hv
  · obtain ⟨s, -, rfl⟩ := List.mem_map.mp hv
    rfl
  · obtain ⟨s, -, rfl⟩ := List.mem_map.mp hv
    rfl

/-- A text has no cells. -/
theorem Store.viewAll_texts (store : Store) (h : AllTexts vs) : store.viewAll vs = vs := by
  rw [viewAll_eq_map]
  refine (List.map_congr_left fun v hv => ?_).trans (List.map_id vs)
  obtain ⟨t, ht⟩ := Option.isSome_iff_exists.mp (h v hv)
  exact view_of_text? ht

namespace Arguments.AreTexts

variable {args : Arguments}

theorem view (h : args.AreTexts) (store : Store) : store.viewArguments args = args := by
  obtain ⟨positional, named⟩ := args
  obtain ⟨hpositional, rfl⟩ := h
  rw [Store.viewArguments, store.viewAll_texts hpositional]
  rfl

theorem isSilent (h : args.AreTexts) : args.IsSilent keys where
  positional v hv := Value.isSilent_of_text? (h.positional v hv)
  named a ha := by
    rw [h.named] at ha
    cases ha

end Arguments.AreTexts

/-- Content that is made of texts. -/
def Content.IsTexts : Content → Prop
  | .literal parts => AllTexts parts
  | .template t args => t.text?.isSome ∧ args.AreTexts

/-- A styled result that shows texts. -/
def Styled.IsTexts : Styled → Prop
  | .deferred _ args => args.AreTexts
  | _ => True

/-! ## Styling -/

theorem Content.isTexts_of_ofTokens {output : OutputMode} {c : Content} (h : AllTexts vs)
    (hc : Content.ofTokens output vs [] = .ok c) : c.IsTexts := by
  unfold Content.ofTokens at hc
  split at hc
  · rcases vs with _ | ⟨v, vs⟩
    · cases hc
    · obtain ⟨hv, hvs⟩ := List.forall_mem_cons.mp h
      dsimp only at hc
      rw [if_pos hv] at hc
      cases hc
      exact ⟨hv, hvs, rfl⟩
  · cases hc
    exact h

section Requests

variable {content : Content} {kinds : List Kind} {modes : Modes}

/-- Content of texts is put together in the same way whatever the store is. -/
theorem assemble_store (h : content.IsTexts) (store : Store) (opening closing : List Char)
    (output : OutputMode) :
    assemble store opening closing content output = assemble {} opening closing content output := by
  cases content with
  | literal parts =>
    have hparts : AllTexts parts := h
    cases output <;> simp only [assemble, Store.viewAll_texts _ hparts]
  | template v args =>
    obtain ⟨htemplate, hargs⟩ := h
    obtain ⟨t, ht⟩ := Option.isSome_iff_exists.mp htemplate
    cases output <;> simp only [assemble, Store.view_of_text? ht, hargs.view]

theorem render_store (h : content.IsTexts) (store : Store) :
    Request.render store ⟨kinds, modes, content⟩ = Request.render {} ⟨kinds, modes, content⟩ := by
  simp only [Request.render, Resolution.wrap, assemble_store h store]

theorem assemble_computes (h : content.IsTexts) (opening closing : List Char)
    (output : OutputMode) :
    Computes Styled.IsTexts (assemble {} opening closing content output) := by
  cases content with
  | literal parts =>
    cases output with
    | literal => exact (Computes.ofExcept fun _ _ => trivial).bind fun _ _ => .pure trivial
    | _ => exact .throw _
  | template v args =>
    obtain ⟨htemplate, hargs⟩ := h
    obtain ⟨t, ht⟩ := Option.isSome_iff_exists.mp htemplate
    have hsilent : args.IsSilent true := hargs.isSilent
    have hrender (full : String) : Computes (fun _ => True) (renderTemplate full args) :=
      renderTemplate_computes hsilent fun _ => rfl
    cases output with
    | literal => exact .throw _
    | format =>
      simp only [assemble, Store.view_of_text? ht, ht]
      exact .pure hargs
    | string =>
      simp only [assemble, Store.view_of_text? ht, ht, hargs.view]
      exact ((hrender _).mapError _).bind fun _ _ => .pure trivial
    | constFormat =>
      have hconstant (full : String) :
          Computes (fun _ => True) (formatConstant (.text full) args) := by
        unfold formatConstant
        split
        · exact .throw _
        · dsimp only [Value.text?]
          split
          · exact .throw _
          · exact (hrender _).mapError _
      simp only [assemble, Store.view_of_text? ht, ht, hargs.view]
      exact (hconstant _).bind fun _ _ => .pure trivial

theorem render_computes_texts (h : content.IsTexts) :
    Computes Styled.IsTexts (Request.render {} ⟨kinds, modes, content⟩) := by
  refine Computes.bind (P := fun _ => True) (.ofExcept fun _ _ => trivial) fun r _ => ?_
  exact assemble_computes h _ _ _

end Requests

namespace Brush

variable {b : Brush} {constFormat : Bool}

theorem content_of_read {l : Leading} (h : AllTexts vs)
    (hread : Leading.read constFormat vs = .ok l) : AllTexts l.content := by
  obtain ⟨-, p, rfl, -⟩ := Leading.read_eq_ok.mp hread
  intro v hv
  exact h v (List.mem_append_right _ hv)

/-- A call with texts is the same in every store. -/
theorem call_store (h : AllTexts vs) (store : Store) :
    b.call store constFormat vs [] = b.call {} constFormat vs [] := by
  have hstyle (modes : Modes) {content : List Value} (hcontent : AllTexts content) :
      b.style store constFormat modes content [] = b.style {} constFormat modes content [] := by
    rcases htokens : Content.ofTokens modes.output content [] with e | c
    · simp only [style, htokens, InContext.ofExcept_error, ExceptT.bind_throw]
    · have hrender : Request.render store ⟨b.kinds, modes, c⟩ =
          Request.render {} ⟨b.kinds, modes, c⟩ :=
        render_store (Content.isTexts_of_ofTokens hcontent htokens) store
      simp only [style, htokens, InContext.ofExcept_ok, pure_bind, hrender]
  rcases hread : Leading.read constFormat vs with e | l
  · simp only [call, hread, InContext.ofExcept_error, ExceptT.bind_throw]
  · simp only [call, hread, InContext.ofExcept_ok, pure_bind, hstyle _ (content_of_read h hread)]

/-- A call with texts is a result and nothing else. -/
theorem call_computes (h : AllTexts vs) :
    Computes Styled.IsTexts (b.call {} constFormat vs []) := by
  have hstyle (modes : Modes) {content : List Value} (hcontent : AllTexts content) :
      Computes Styled.IsTexts (b.style {} constFormat modes content []) := by
    have hrest : Computes Styled.IsTexts (do
        let c ← InContext.ofExcept .call (Content.ofTokens modes.output content [])
        (Request.render {} ⟨b.kinds, modes, c⟩).mapError RequestError.failure) :=
      Computes.bind (.ofExcept fun c hc => Content.isTexts_of_ofTokens hcontent hc) fun c hc =>
        (render_computes_texts hc).mapError _
    unfold style
    split
    · exact Computes.bind (P := fun _ => False) (.throw _) fun _ h => h.elim
    · exact hrest
  refine Computes.bind (.ofExcept fun l hl => content_of_read h hl) fun l hl => ?_
  exact hstyle _ hl

end Brush

/-! ## Texts of calls -/

/-- The text of what a call gives. -/
def shownCall (m : Value) (tokens : List Value) : Action String := do
  renderValue (← callValue m tokens [])

/-- The text of a styled result that shows texts, which may be a cell for that moment. -/
theorem run_shown {r : Styled} (h : r.IsTexts) :
    ∃ shown : Except Failure String, ∀ w : World, ∃ store,
      (do renderValue (← styledValue r) : Action String).run.run w = (shown, { w with store }) := by
  cases r with
  | text s => exact ⟨.ok s, fun w => ⟨w.store, renderValue_text s w⟩⟩
  | constText s => exact ⟨.ok s, fun w => ⟨w.store, renderValue_constText s w⟩⟩
  | deferred full args =>
    have hargs : args.AreTexts := h
    have hsilent : args.IsSilent true := hargs.isSilent
    have hrender : Computes (fun _ => True) (renderTemplate full args) :=
      renderTemplate_computes hsilent fun _ => rfl
    obtain ⟨shown, hshown, -⟩ := hrender
    refine ⟨shown.mapError .template, fun w =>
      ⟨(w.store.add (Styled.deferred full args).value).2, ?_⟩⟩
    have hcell : (styledValue (.deferred full args)).run.run w =
      (.ok (.cell w.store.cells.length),
        { w with store := (w.store.add (Styled.deferred full args).value).2 }) := rfl
    rw [run_bind_ok hcell, renderValue_deferred (Store.get?_add_self _ _), hargs.view, hshown,
      Action.run_inContext]
    cases shown <;> rfl

/-- A call with texts and its text: the same for every value that is the brush, in every world whose
settings say the same about constant text. It changes nothing but cells. -/
theorem run_shownCall (b : Brush) (constFormat : Bool) (h : AllTexts vs) :
    ∃ shown : Except Failure String, ∀ (w : World) (m : Value) (s : Settings),
      w.store.contents m = .brush b → w.settings = some s → s.constFormat = constFormat →
        ∃ store, (shownCall m vs).run.run w = (shown, { w with store }) := by
  have hcomputes : Computes Styled.IsTexts (b.call {} constFormat vs []) := b.call_computes h
  obtain ⟨r, hcall, hr⟩ := hcomputes
  have hstyled (w : World) : (Action.inContext id (b.call w.store constFormat vs [])).run.run w =
      (r, w) := by
    rw [b.call_store h, hcall, Action.run_inContext]
    cases r <;> rfl
  have hrun {w : World} {m : Value} {s : Settings} (hm : w.store.contents m = .brush b)
      (hs : w.settings = some s) (hconst : s.constFormat = constFormat) :
      (shownCall m vs).run.run w =
        (styledIn (b.call w.store constFormat vs []) >>= renderValue).run.run w := by
    rw [shownCall, run_bind, run_bind, run_callValue hm hs vs (by simp), hconst]
  rcases r with f | styled
  · refine ⟨.error f, fun w m s hm hs hconst => ⟨w.store, ?_⟩⟩
    rw [hrun hm hs hconst, styledIn, run_bind_error (run_bind_error (hstyled w) _)]
  · obtain ⟨shown, hshown⟩ := run_shown (hr styled rfl)
    refine ⟨shown, fun w m s hm hs hconst => ?_⟩
    obtain ⟨store, hstore⟩ := hshown w
    refine ⟨store, ?_⟩
    rw [hrun hm hs hconst, styledIn, bind_assoc, run_bind_ok (hstyled w), hstore]

end Sgr
