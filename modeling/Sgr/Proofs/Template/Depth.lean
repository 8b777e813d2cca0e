import Sgr.Proofs.Ending
import Sgr.Proofs.Template.Finding

/-!
# Deferred texts inside one another

A deferred text that is an argument is rendered when it is written, and its own arguments are rendered
in turn. Templates are filled with a number that bounds how often this can happen, the depth of the
arguments. What a field finds in arguments is not deeper than they are, and the arguments of a
deferred text are less deep than it is. So the bound is never met: a template is filled by rendering
its arguments, however large the number was.

## Main definitions

* `Writer.AgreeTo` — writers that write values up to a depth alike.
* `rendering` — the writer that renders every value.

## Main statements

* `find_depth`, `depth_ofParts` — the depth of what a field finds, and of the parts of a deferred text.
* `renderAt_eq` — a sufficient bound does not matter.
* `renderTemplate_eq` — a template is filled by rendering its arguments.
-/

namespace Sgr

variable {args : Arguments} {d : Nat}

/-! ## Depth -/

theorem depthAll_le_iff {vs : List Value} : depthAll vs ≤ d ↔ ∀ v ∈ vs, v.depth ≤ d := by
  induction vs with
  | nil => simp [depthAll]
  | cons v vs ih => rw [depthAll, Nat.max_le, ih, List.forall_mem_cons]

theorem depthEntries_le_iff {es : List (Value × Value)} :
    depthEntries es ≤ d ↔ ∀ e ∈ es, e.1.depth ≤ d ∧ e.2.depth ≤ d := by
  induction es with
  | nil => simp [depthEntries]
  | cons e es ih => rw [depthEntries, Nat.max_le, Nat.max_le, ih, List.forall_mem_cons]

theorem Arguments.depth_le_iff : args.depth ≤ d ↔ ∀ v ∈ args.values, v.depth ≤ d := by
  rw [depth, Nat.max_le, depthAll_le_iff, depthAll_le_iff, values, List.forall_mem_append]

namespace Value

theorem depth_of_isLeaf {v : Value} (h : v.IsLeaf) : v.depth = 0 := by
  cases v <;> first | rfl | exact h.elim

/-- What a step finds in a value is not deeper than it is. -/
theorem FoundIn.depth_le {u v : Value} (h : u.FoundIn v) : u.depth ≤ v.depth := by
  cases h with
  | leaf hleaf => rw [depth_of_isLeaf hleaf]; exact Nat.zero_le _
  | list hmem => exact depthAll_le_iff.mp (Nat.le_refl _) u hmem
  | tuple hmem => exact depthAll_le_iff.mp (Nat.le_refl _) u hmem
  | dict hmem => exact (depthEntries_le_iff.mp (Nat.le_refl _) _ hmem).2
  | template | args | named =>
    rw [depth]
    omega

theorem depth_of_isTool {v : Value} (h : v.IsTool) : v.depth = 0 := by
  cases v <;> first | rfl | exact h.elim

/-- The steps of a field never lead to a deeper value. -/
theorem walk_depth {v u : Value} {steps : List Step} {c c' : Context}
    (h : (v.walk steps).run.run c = (.ok u, c')) : u.depth ≤ v.depth := by
  induction steps generalizing v c with
  | nil =>
    cases h
    exact Nat.le_refl _
  | cons s ss ih =>
    obtain ⟨x, c₁, hx, h⟩ := exists_of_run_bind h
    refine Nat.le_trans (ih h) ?_
    by_cases hv : v.IsTool
    · rw [depth_of_isTool (isTool_of_step hv hx)]
      exact Nat.zero_le _
    · obtain ⟨r, hr, hfound⟩ := step_of_not_isTool hv s
      rw [hr] at hx
      cases r with
      | error e => cases hx
      | ok y =>
        cases hx
        exact (hfound _ rfl).depth_le

end Value

/-- What a field finds is not deeper than the arguments. -/
theorem find_depth (args : Arguments) (name : List Char) (n : Numbering) :
    InContext.Ends (fun r => r.1.depth ≤ args.depth) (fun _ => True) (args.find name n) := by
  intro c
  rcases hrun : (args.find name n).run.run c with ⟨e | ⟨u, m⟩, c'⟩
  · trivial
  · unfold Arguments.find at hrun
    obtain ⟨path, c₁, -, hrun⟩ := exists_of_run_bind hrun
    obtain ⟨⟨v, k⟩, c₂, hstart, hrun⟩ := exists_of_run_bind hrun
    obtain ⟨x, c₃, hwalk, hrun⟩ := exists_of_run_bind hrun
    have hv : v ∈ args.values := by
      cases hr : args.start path.head n with
      | error e =>
        rw [hr] at hstart
        cases hstart
      | ok r =>
        rw [hr] at hstart
        cases hstart
        exact Arguments.mem_values_of_start hr
    have hx : x.depth ≤ args.depth :=
      Nat.le_trans (Value.walk_depth hwalk) (Arguments.depth_le_iff.mp (Nat.le_refl _) v hv)
    split at hrun
    · cases hrun
    · cases hrun
      exact hx

theorem Value.depth_parts? {v : Value} {items : List Value} (h : v.parts? = some items) :
    depthAll items ≤ v.depth := by
  unfold parts? at h
  split at h <;> cases h
  · exact depthAll_le_iff.mpr fun u hu => Nat.le_of_eq (depth_of_isLeaf (isLeaf_of_mem_characters hu))
  · exact depthAll_le_iff.mpr fun u hu => Nat.le_of_eq (depth_of_isLeaf (isLeaf_of_mem_characters hu))
  · refine depthAll_le_iff.mpr fun u hu => ?_
    obtain ⟨b, -, rfl⟩ := List.mem_map.mp hu
    exact Nat.le_refl _
  · exact Nat.le_refl _
  · exact Nat.le_refl _
  · exact Nat.le_refl _
  · exact Nat.le_refl _
  · refine depthAll_le_iff.mpr fun u hu => ?_
    obtain ⟨e, he, rfl⟩ := List.mem_map.mp hu
    exact (depthEntries_le_iff.mp (Nat.le_refl _) e he).1

/-- The arguments of a deferred text are less deep than it is. -/
theorem depth_ofParts {positional named : Value} (template : Value)
    (h : Arguments.ofParts positional named = .ok args) :
    args.depth < (Value.deferred template positional named).depth := by
  obtain ⟨hparts, hentries⟩ := Arguments.ofParts_eq_ok h
  have hpositional := Value.depth_parts? hparts
  have hnamed : depthAll (args.named.map Prod.snd) ≤ named.depth := by
    obtain hnone | ⟨es, rfl, hsome⟩ := hentries
    · rw [hnone]
      exact Nat.zero_le _
    · refine depthAll_le_iff.mpr fun u hu => ?_
      obtain ⟨a, ha, rfl⟩ := List.mem_map.mp hu
      rw [hsome] at ha
      obtain ⟨e, he, ha⟩ := List.mem_filterMap.mp ha
      obtain ⟨t, -, rfl⟩ := Option.map_eq_some_iff.mp ha
      exact (depthEntries_le_iff.mp (Nat.le_refl _) e he).2
  rw [Arguments.depth, Value.depth]
  omega

/-! ## Writers -/

/-- Writers that write values up to a depth alike. -/
structure Writer.AgreeTo (d : Nat) (w w' : Writer) : Prop where
  own : ∀ v : Value, v.depth ≤ d → w.own v = w'.own v
  present : ∀ (v : Value) (spec : List Char), v.depth ≤ d → w.present v spec = w'.present v spec

/-- Work goes on alike if it does so with every result there can be. -/
theorem bind_congr_of_ends {ε α β : Type} {P : α → Prop} {x : InContext ε α}
    {f g : α → InContext ε β} (hx : InContext.Ends P (fun _ => True) x) (h : ∀ a, P a → f a = g a) :
    x >>= f = x >>= g := by
  apply run_ext
  intro c
  have hends := hx c
  rcases hrun : x.run.run c with ⟨e | a, c'⟩
  · rw [run_bind_error hrun, run_bind_error hrun]
  · rw [hrun] at hends
    rw [run_bind_ok hrun, run_bind_ok hrun, h a hends]

section Filling

variable {w w' : Writer} (hw : w.AgreeTo d w')

include hw

/-- A converted value is a text or the value itself, so it is not deeper. -/
theorem convert_bind_agree (conversion : Option Char) {v : Value} (hv : v.depth ≤ d) {α : Type}
    {k k' : Value → Filling α} (hk : ∀ u : Value, u.depth ≤ d → k u = k' u) :
    w.convert conversion v >>= k = w'.convert conversion v >>= k' := by
  have htext (s : String) : k (.text s) = k' (.text s) := hk _ (Nat.zero_le _)
  cases conversion with
  | none =>
    rw [Writer.convert, Writer.convert, pure_bind, pure_bind]
    exact hk v hv
  | some c =>
    simp only [Writer.convert, hw.own v hv]
    split
    · simp only [bind_assoc, pure_bind, htext]
    · split
      · simp only [bind_assoc, pure_bind, htext]
      · split
        · simp only [bind_assoc, pure_bind, htext]
        · rfl

variable (hargs : args.depth ≤ d) {expand expand' : Expand}
  (hexpand : ∀ spec n, expand spec n = expand' spec n)

include hargs hexpand

theorem fillField_agree (f : Field) (n : Numbering) :
    fillField w args expand f n = fillField w' args expand' f n := by
  have hfind : InContext.Ends (fun r => r.1.depth ≤ args.depth) (fun _ => True)
      ((args.find f.name n).mapError TemplateError.fault) :=
    (find_depth args f.name n).mapError fun _ h => h
  refine bind_congr_of_ends hfind fun (v, n) hv => ?_
  refine convert_bind_agree hw f.conversion (Nat.le_trans hv hargs) fun u hu => ?_
  simp only [hw.present u _ hu, hexpand]

theorem fillScript_agree (s : Script) (n : Numbering) :
    fillScript w args expand s n = fillScript w' args expand' s n := by
  have pieces (ps : List Piece) (n : Numbering) :
      fillPieces w args expand ps n = fillPieces w' args expand' ps n := by
    induction ps generalizing n with
    | nil => rfl
    | cons p ps ih =>
      cases p with
      | char c => simp only [fillPieces, ih]
      | field f => simp only [fillPieces, ih, fillField_agree hw hargs hexpand]
  simp only [fillScript, pieces]

omit hexpand in
/-- Writers that agree to the depth of arguments fill a template with them alike. -/
theorem fill_agree (template : List Char) : fill w args template = fill w' args template := by
  have nested (spec : List Char) (n : Numbering) : fillSpec w args spec n = fillSpec w' args spec n :=
    fillScript_agree hw hargs (fun _ _ => rfl) _ n
  simp only [fill, fillScript_agree hw hargs nested]

end Filling

/-! ## Rendering -/

section Rendering

variable {render render' : String → Arguments → Filling String}

/-- How values up to a depth are written depends on templates with less deep arguments. -/
theorem writerFor_agree (h : ∀ t args, args.depth < d → render t args = render' t args) :
    (writerFor render).AgreeTo d (writerFor render') := by
  have parts {template positional named : Value}
      (hv : (Value.deferred template positional named).depth ≤ d) :
      renderParts render template positional named =
        renderParts render' template positional named := by
    unfold renderParts
    split
    · rfl
    · split
      · rfl
      · next hparts => exact h _ _ (Nat.lt_of_lt_of_le (depth_ofParts template hparts) hv)
  constructor
  · intro v hv
    simp only [writerFor]
    split
    · exact parts hv
    · rfl
  · intro v spec hv
    simp only [writerFor]
    split
    · rw [parts hv]
    · rfl

/-- Any bound beyond the depth of the arguments is sufficient. -/
theorem renderAt_eq {n m : Nat} (t : String) (hn : args.depth < n) (hm : args.depth < m) :
    renderAt n t args = renderAt m t args := by
  induction n generalizing m t args with
  | zero => exact absurd hn (Nat.not_lt_zero _)
  | succ n ih =>
    cases m with
    | zero => exact absurd hm (Nat.not_lt_zero _)
    | succ m =>
      have hw : (writerFor (renderAt n)).AgreeTo args.depth (writerFor (renderAt m)) :=
        writerFor_agree fun t args hargs => ih t (by omega) (by omega)
      rw [renderAt, renderAt, fill_agree hw (Nat.le_refl _)]

/-- The writer that renders every value. -/
def rendering : Writer where
  present := Value.format
  own := Value.render

/-- A bound that is not below the depth of values renders them. -/
theorem writerFor_agree_rendering : (writerFor (renderAt d)).AgreeTo d rendering := by
  have agree {v : Value} (hv : v.depth ≤ d) :
      (writerFor (renderAt d)).AgreeTo v.depth (writer v) :=
    writerFor_agree fun t args hargs => renderAt_eq t (by omega) hargs
  constructor
  · exact fun v hv => (agree hv).own v (Nat.le_refl _)
  · exact fun v spec hv => (agree hv).present v spec (Nat.le_refl _)

/-- A template is filled by rendering its arguments. -/
theorem renderTemplate_eq (t : String) (args : Arguments) :
    renderTemplate t args = (do
      return String.ofList (← (fill rendering args t.toList).mapError (·.within t))) := by
  rw [renderTemplate, renderAt, fill_agree writerFor_agree_rendering (Nat.le_refl _)]

/-- A deferred text whose parts fit is rendered by filling its template. -/
theorem render_deferred_eq {template positional named : Value} {t : String}
    (ht : template.text? = some t) (hargs : Arguments.ofParts positional named = .ok args) :
    (Value.deferred template positional named).render = renderTemplate t args := by
  have hdepth := depth_ofParts template hargs
  rw [Value.render, writer]
  simp only [writerFor, renderParts, ht, hargs]
  exact renderAt_eq t hdepth (Nat.lt_succ_self _)

end Rendering

end Sgr
