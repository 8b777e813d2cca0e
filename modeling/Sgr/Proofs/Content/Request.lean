import Sgr.Proofs.Running
import Sgr.Proofs.Store

/-!
# What requests give

A request resolves its kinds, of which there must be one, and puts its content between the sequences
of the resolution. Literal texts are put together as they are. A deferred text holds its template
and its arguments as they were given; its cells are looked up when it is read, and then it is filled
like the template itself.

## Main statements

* `render_of_kinds`, `render_texts` — the request of kinds, and one with texts as its content.
* `render_string`, `render_format` — a template that is filled, and one that is kept.
* `formatConstant_of_text?` — a template that is filled with constant arguments.
* `Store.view_deferred` — looking up a deferred text looks up its arguments.
* `render_deferred` — what a deferred text gives is what its template gives.
* `renderValue_deferred` — reading a cell with a deferred text fills its template.
-/

namespace Sgr

/-! ## Literal content -/

theorem Resolution.ofKinds?_of_ne_nil {kinds : List Kind} (h : kinds ≠ []) (revert : RevertMode) :
    ofKinds? kinds revert = .ok (ofKinds kinds revert) := by
  simp [ofKinds?, h]

/-- Kinds resolve as soon as there is one. -/
theorem render_of_kinds (store : Store) (k : Kind) (ks : List Kind) (modes : Modes)
    (content : Content) :
    Request.render store ⟨k :: ks, modes, content⟩ =
      (Resolution.ofKinds (k :: ks) modes.revert).wrap store content modes.output := by
  simp [Request.render, Resolution.ofKinds?]

theorem literalText_texts (ss : List String) :
    literalText (ss.map .text) = .ok (String.ofList (ss.flatMap String.toList)) := by
  induction ss with
  | nil => rfl
  | cons s ss ih =>
    have hs : (Value.text s).isLiteral := rfl
    rw [List.map_cons, literalText, if_pos hs, ih, List.flatMap_cons, String.ofList_append,
      String.ofList_toList]
    rfl

/-- Texts are put together between the sequences. -/
theorem render_texts (store : Store) (k : Kind) (ks : List Kind) (revert : RevertMode)
    (ss : List String) :
    let r := Resolution.ofKinds (k :: ks) revert
    Request.render store ⟨k :: ks, ⟨.literal, revert⟩, .literal (ss.map .text)⟩ =
      pure (.text (String.ofList (r.opening ++ ss.flatMap String.toList ++ r.closing))) := by
  have hview : store.viewAll (ss.map .text) = ss.map .text := by
    rw [Store.viewAll_eq_map, List.map_map]
    apply List.map_congr_left
    intro s _
    exact store.view_text s
  intro r
  rw [render_of_kinds, Resolution.wrap, assemble, hview, literalText_texts, String.ofList_append,
    String.ofList_append]
  rfl

/-! ## Templates -/

section Templates

variable {store : Store} {kinds : List Kind} {revert : RevertMode} {r : Resolution}
  {template : Value} {t : String} {args : Arguments}

/-- A text is no cell. -/
theorem Store.view_of_text? (ht : template.text? = some t) :
    store.view template = template := by
  cases template <;> simp_all [Value.text?, view, expand]

/-- A request for a text fills the template with the sequences around it. -/
theorem render_string (ht : template.text? = some t)
    (hr : Resolution.ofKinds? kinds revert = .ok r) :
    Request.render store ⟨kinds, ⟨.string, revert⟩, .template template args⟩ =
      Styled.text <$> (renderTemplate (String.ofList r.opening ++ t ++ String.ofList r.closing)
        (store.viewArguments args)).mapError .template := by
  simp only [Request.render, hr, InContext.ofExcept_ok, pure_bind, Resolution.wrap, assemble,
    store.view_of_text? ht, ht, map_eq_pure_bind]

/-- A request in deferred form keeps the template, with the sequences around it. -/
theorem render_format (ht : template.text? = some t)
    (hr : Resolution.ofKinds? kinds revert = .ok r) :
    Request.render store ⟨kinds, ⟨.format, revert⟩, .template template args⟩ =
      pure (.deferred (String.ofList r.opening ++ t ++ String.ofList r.closing) args) := by
  simp only [Request.render, hr, InContext.ofExcept_ok, pure_bind, Resolution.wrap, assemble,
    store.view_of_text? ht, ht]

/-- A text is filled with arguments that are constant, unless one of them takes its name. -/
theorem formatConstant_of_text? (ht : template.text? = some t)
    (hnames : ∀ a ∈ args.named, a.1 ≠ "template") :
    formatConstant template args =
      match args.mutable? with
      | some v => throw (.content (.notConstant v))
      | none => (renderTemplate t args).mapError .template := by
  have hname : args.named.any (·.1 = "template") = false := by
    rw [List.any_eq_false]
    intro a ha
    simpa using hnames a ha
  rw [formatConstant, hname, ht]
  rfl

end Templates

/-! ## Deferred content -/

/-- The arguments of a deferred text are looked up with it. -/
theorem Store.view_deferred (s : Store) (t : String) (args : Arguments) :
    s.view (Styled.deferred t args).value = (Styled.deferred t (s.viewArguments args)).value := by
  simp [view, Styled.value, viewArguments, expand, expandEntries_eq_map, viewAll_eq_map, viewNamed,
    expandAll_eq_map]

theorem depthEntries_named (named : List (String × Value)) :
    depthEntries (named.map fun (name, v) => (.text name, v)) =
      depthAll (named.map Prod.snd) := by
  induction named with
  | nil => rfl
  | cons a named ih =>
    obtain ⟨name, v⟩ := a
    simp only [List.map_cons, depthEntries, depthAll, ih, Value.depth, Nat.zero_max]

theorem depth_deferred (t : String) (args : Arguments) :
    (Styled.deferred t args).value.depth = args.depth + 1 := by
  simp only [Styled.value, Value.depth, depthEntries_named, Arguments.depth, Nat.zero_max]

theorem namedEntries_named (named : List (String × Value)) :
    Value.namedEntries (named.map fun (name, v) => (.text name, v)) = named := by
  induction named with
  | nil => rfl
  | cons a named ih =>
    obtain ⟨name, v⟩ := a
    simp only [Value.namedEntries, Value.text?, List.map_cons, List.filterMap_cons,
      Option.map_some] at ih ⊢
    rw [ih]

/-- The parts of a deferred text are its arguments. -/
theorem ofParts_arguments (args : Arguments) :
    Arguments.ofParts (.tuple args.positional)
      (.dict (args.named.map fun (name, v) => (.text name, v))) = .ok args := by
  obtain ⟨positional, named⟩ := args
  have names := namedEntries_named named
  rcases named with _ | ⟨a, named⟩
  · rfl
  · simp only [Arguments.ofParts, names]
    rfl

/-- A deferred text is rendered by filling its template. -/
theorem render_deferred (t : String) (args : Arguments) :
    (Styled.deferred t args).value.render = renderTemplate t args := by
  have own (r : String → Arguments → Filling String) :
      (writerFor r).own (Styled.deferred t args).value =
        renderParts r (.text t) (.tuple args.positional)
          (.dict (args.named.map fun (name, v) => (.text name, v))) := rfl
  simp only [Value.render, writer, own, depth_deferred, renderParts, Value.text?,
    ofParts_arguments, renderTemplate]

/-! ## Reading values -/

/-- Looking up a cell with a deferred text looks up its arguments. -/
theorem Store.viewParts_deferred {store : Store} {id : Nat} {full : String} {args : Arguments}
    (hid : store.get? id = some (Styled.deferred full args).value) :
    store.viewParts (.cell id) = (Styled.deferred full (store.viewArguments args)).value := by
  have hcontents : store.contents (.cell id) = (Styled.deferred full args).value := by
    rw [contents, hid, Option.getD_some]
  rw [viewParts, hcontents]
  simp [view, Styled.value, viewArguments, expand, expandEntries_eq_map, viewAll_eq_map, viewNamed,
    expandAll_eq_map]

/-- Reading a cell with a deferred text fills its template. -/
theorem renderValue_deferred {w : World} {id : Nat} {full : String} {args : Arguments}
    (hid : w.store.get? id = some (Styled.deferred full args).value) :
    (renderValue (.cell id)).run.run w =
      (Action.inContext .template
        (renderTemplate full (w.store.viewArguments args))).run.run w := by
  rw [renderValue, run_bind_ok (run_get w), Store.viewParts_deferred hid, render_deferred]

/-- Reading a text shows it as it is. -/
theorem renderValue_text (s : String) (w : World) :
    (renderValue (.text s)).run.run w = (.ok s, w) := by
  have hview : w.store.viewParts (.text s) = .text s := w.store.view_text s
  rw [renderValue, run_bind_ok (run_get w), hview]
  rfl

theorem renderValue_constText (s : String) (w : World) :
    (renderValue (.constText s)).run.run w = (.ok s, w) := by
  have hview : w.store.viewParts (.constText s) = .constText s := by
    simp [Store.viewParts, Store.contents, Store.view, Store.expand]
  rw [renderValue, run_bind_ok (run_get w), hview]
  rfl

end Sgr
