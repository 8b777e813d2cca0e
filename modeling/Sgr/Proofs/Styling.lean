import Sgr.Proofs.Brush.Call
import Sgr.Proofs.Sigil.Prefix
import Sgr.Proofs.Store
import Sgr.Styling

/-!
# Running styling calls

A value that is a brush, itself or through a cell, is called and put in brackets like that brush.
Under active settings a call does nothing to the world but what styling its content does, whichever
way it is written.

## Main definitions

* `styledIn` — styling, and a cell for its result.
* `FreeNames` — names that are no parameters.
* `Alike` — values that are called and put in brackets alike.

## Main statements

* `run_callValue`, `run_callMethod` — a call of a brush, and a call that picks the output mode.
* `run_bracket` — a brush with a text of sigils in brackets.
* `alike_of_brush` — values that are the same brush are alike.
-/

namespace Sgr

/-- The value of a styled result, which may be a new cell. -/
def styledIn (x : InContext Failure Styled) : Action Value := do
  styledValue (← Action.inContext id x)

variable {w : World} {m : Value} {b : Brush} {s : Settings}

theorem run_toolOf?_value {t : Tool} (hm : w.store.contents m = t.value) :
    (toolOf? m).run.run w = (.ok (some t), w) := by
  have h : (toolOf? m).run.run w = (.ok (w.store.contents m).tool?, w) := rfl
  rw [h, hm]
  cases t <;> rfl

theorem run_toolOf? (hm : w.store.contents m = .brush b) :
    (toolOf? m).run.run w = (.ok (some (.brush b)), w) :=
  run_toolOf?_value (t := .brush b) hm

theorem run_viewValue_text (t : String) (w : World) :
    (viewValue (.text t)).run.run w = (.ok (.text t), w) := by
  have h : (viewValue (.text t)).run.run w = (.ok (w.store.view (.text t)), w) := rfl
  rw [h, Store.view_text]

theorem run_partsOf? (hm : w.store.contents m = .brush b) :
    (partsOf? m).run.run w = (.ok (some (.ofBrush b)), w) := by
  have h : (partsOf? m).run.run w = (.ok (w.store.view m).brushParts?, w) := rfl
  rw [h, Store.view_of_brush hm]
  rfl

theorem refuseNamed_of_not_mem {function parameter : String} {kw : List (String × Value)}
    (h : ∀ a ∈ kw, a.1 ≠ parameter) : refuseNamed function parameter kw = pure () := by
  have hany : kw.any (·.1 = parameter) = false := by simpa using h
  simp [refuseNamed, hany]

theorem run_enabled (hs : w.settings = some s) :
    (Action.inContext .settings (mayBeConstant none)).run.run w = (.ok s.constFormat, w) := by
  have h : (mayBeConstant none).run.run w.toContext = (.ok s.constFormat, w.toContext) := by
    rw [run_mayBeConstant, run_activeSettings hs]
    rfl
  rw [Action.run_inContext_ok h]

/-- A call of a brush or a family asks whether constant text is allowed, and then styles. -/
theorem run_callValue_tool {t : Tool} (hm : w.store.contents m = t.value) (ts : List Value)
    {kw : List (String × Value)} (hkw : ∀ a ∈ kw, a.1 ≠ "self") :
    (callValue m ts kw).run.run w =
      (Action.inContext .settings (mayBeConstant none) >>= fun enabled =>
        styledIn (t.call w.store enabled ts kw)).run.run w := by
  have hparts : (partsOf? m).run.run w = (.ok (w.store.view m).brushParts?, w) := rfl
  rw [callValue, run_bind_ok (run_toolOf?_value hm), run_bind_ok hparts]
  simp only [callTool, refuseNamed_of_not_mem hkw, pure_bind]
  rcases hasked : (Action.inContext .settings (mayBeConstant none)).run.run w with ⟨r, w'⟩
  -- the settings may be read here, which leaves the cells as they are
  have hstore : w'.store = w.store := by
    rw [Action.run_inContext] at hasked
    cases hasked
    rfl
  cases r with
  | error e => rw [run_bind_error hasked, run_bind_error hasked]
  | ok enabled =>
    rw [run_bind_ok hasked, run_bind_ok hasked, run_bind_ok (run_get w'), hstore]
    rfl

/-- A call of a brush under active settings. -/
theorem run_callValue (hm : w.store.contents m = .brush b) (hs : w.settings = some s)
    (ts : List Value) {kw : List (String × Value)} (hkw : ∀ a ∈ kw, a.1 ≠ "self") :
    (callValue m ts kw).run.run w =
      (styledIn (b.call w.store s.constFormat ts kw)).run.run w := by
  rw [run_callValue_tool (t := .brush b) hm ts hkw, run_bind_ok (run_enabled hs)]
  rfl

/-! ## Methods -/

/-- No name is that of a parameter of a call or of a method. -/
def FreeNames (kw : List (String × Value)) : Prop :=
  ∀ a ∈ kw, a.1 ≠ "self" ∧ a.1 ≠ "template" ∧ a.1 ≠ "revert"

/-- Names that are no parameters are bound as they are. -/
theorem bindNamed_others {method : Method} (hm : method ≠ .literal) {kw : List (String × Value)}
    (hkw : FreeNames kw) (args : MethodArguments) :
    bindNamed method args kw = .ok { args with named := args.named ++ kw } := by
  induction kw generalizing args with
  | nil => simp [bindNamed]
  | cons a kw ih =>
    obtain ⟨name, v⟩ := a
    obtain ⟨⟨hself, htemplate, hrevert⟩, hrest⟩ := List.forall_mem_cons.mp hkw
    simp only [bindNamed, if_neg hself, if_neg hrevert, if_neg hm, if_neg htemplate, ih hrest,
      List.append_assoc, List.singleton_append]

theorem bindArguments_others {method : Method} (revert : RevertMode) {ts : List Value}
    (hts : method ≠ .literal → ts ≠ []) {kw : List (String × Value)}
    (hkw : FreeNames kw)
    (hliteral : method = .literal → kw = []) :
    bindArguments method (some revert) ts kw = .ok ⟨some revert, ts, kw⟩ := by
  have hnone : (kw.any (·.1 = "revert")) = false := by
    simpa using fun name v h => (hkw (name, v) h).2.2
  by_cases hm : method = .literal
  · obtain rfl := hliteral hm
    simp [bindArguments, bindNamed, hm]
  · simp [bindArguments, bindNamed_others hm hkw, hnone, bind, Except.bind, hts hm]
    rfl

/-- A method styles its content under the modes that it is given. -/
theorem run_callMethod (hm : w.store.contents m = .brush b) (hs : w.settings = some s)
    (method : Method) (revert : RevertMode) {ts : List Value} (hts : method ≠ .literal → ts ≠ [])
    {kw : List (String × Value)} (hkw : FreeNames kw)
    (hliteral : method = .literal → kw = []) :
    (callMethod m method (some revert) ts kw).run.run w =
      (styledIn (b.style w.store s.constFormat ⟨method.output, revert⟩ ts kw)).run.run w := by
  have hnames (f : String × Value → String × Value) (hf : ∀ a ∈ kw, f a = a) : kw.map f = kw :=
    (List.map_congr_left hf).trans (List.map_id kw)
  rw [callMethod, run_bind_ok (run_partsOf? hm)]
  simp only
  rw [run_bind_ok (run_get w), hnames _ fun a ha => if_neg (hkw a ha).2.2,
    bindArguments_others revert hts hkw hliteral]
  simp only [Action.lift, pure_bind, Option.getD_some, Brush.style_ofBrush]
  by_cases hconst : method = .constFormat
  · rw [if_pos hconst, run_bind_ok (run_enabled hs)]
    rfl
  · have hne : (Modes.mk method.output revert).output ≠ .constFormat := by
      cases method <;> simp_all [Method.output]
    rw [if_neg hconst, Brush.style_of_ne_constFormat hne false s.constFormat]
    rfl

/-! ## Brackets -/

/-- A text is read in the context alone. -/
theorem run_readPrefix_of_prefixModes {p : String} {w₁ : World} {modes : Modes}
    (h : (prefixModes p none).run.run w = (.ok modes, w₁)) :
    (readPrefix (Text.quote p) p none).run.run w.toContext = (.ok modes, w₁.toContext) := by
  rw [prefixModes, Action.run_inContext] at h
  rcases hr : (readPrefix (Text.quote p) p none).run.run w.toContext with ⟨e | modes', c⟩
  · rw [hr] at h
    cases h
  · rw [hr] at h
    cases h
    rfl

/-- A text of sigils behind a brush gives a new brush with other modes, and keeps those there
are. -/
theorem run_bracket (hm : w.store.contents m = .brush b) {p : String} {modes : Modes} {c : Context}
    (h : (readPrefix (Text.quote p) p none).run.run w.toContext = (.ok modes, c)) :
    ∃ m' w', (bracket m (.text p)).run.run w = (.ok m', w') ∧ w'.toContext = c ∧
      w'.store.contents m' = .brush (b.withModes (some modes.output) (some modes.revert)) ∧
      ∀ v other, w.store.contents v = .brush other → w'.store.contents v = .brush other := by
  have hindex : ((Tool.brush b).index (.text p)).run.run w.toContext =
      (.ok (b.withModes (some modes.output) (some modes.revert)), c) := by
    have hprefix : (prefixOf (.text p)).run.run w.toContext = (.ok modes, c) := by
      have hread : prefixOf (.text p) =
          (readPrefix (Text.quote p) p none).mapError BracketError.sigils := rfl
      rw [hread, InContext.run_mapError, h]
      rfl
    rw [Tool.index, Brush.index, run_bind_ok hprefix]
    rfl
  have htool : (indexTool (.brush b) (.text p)).run.run w =
      (.ok (b.withModes (some modes.output) (some modes.revert)), { w with toContext := c }) := by
    rw [indexTool, run_bind_ok (run_viewValue_text p w), Action.run_inContext_ok hindex]
  let added := w.store.add (.brush (b.withModes (some modes.output) (some modes.revert)))
  refine ⟨added.1, { w with toContext := c, store := added.2 }, ?_, ?_⟩
  · rw [bracket, run_bind_ok (run_toolOf? hm), run_bind_ok (run_partsOf? hm)]
    simp only
    rw [run_bind_ok htool]
    rfl
  · exact ⟨rfl, Store.contents_add_self _ _, fun v other hv => Store.contents_add hv rfl _⟩

/-! ## The same brush -/

/-- In a world, two values are called and put in brackets alike. -/
structure Alike (w : World) (m m' : Value) : Prop where
  call : ∀ ts kw, (callValue m ts kw).run.run w = (callValue m' ts kw).run.run w
  method : ∀ method revert ts kw,
    (callMethod m method revert ts kw).run.run w = (callMethod m' method revert ts kw).run.run w
  bracket : ∀ key, (bracket m key).run.run w = (bracket m' key).run.run w

/-- What is done with a brush depends on the brush alone. -/
theorem alike_of_brush {m' : Value} (hm : w.store.contents m = .brush b)
    (hm' : w.store.contents m' = .brush b) : Alike w m m' where
  call ts kw := by
    simp only [callValue]
    rw [run_bind_ok (run_toolOf? hm), run_bind_ok (run_partsOf? hm),
      run_bind_ok (run_toolOf? hm'), run_bind_ok (run_partsOf? hm')]
  method method revert ts kw := by
    simp only [callMethod]
    rw [run_bind_ok (run_partsOf? hm), run_bind_ok (run_partsOf? hm')]
  bracket key := by
    simp only [Sgr.bracket]
    rw [run_bind_ok (run_toolOf? hm), run_bind_ok (run_partsOf? hm),
      run_bind_ok (run_toolOf? hm'), run_bind_ok (run_partsOf? hm')]

end Sgr
