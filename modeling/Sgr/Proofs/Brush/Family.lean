import Sgr.Proofs.Styling

/-!
# Calls of colour families

A family takes the parameters of its colour from the front of the content of a call. How many there
are is told by the first of them, and a sigil behind them says where the content starts. The same
brush can be made beforehand from the parameters alone. Calling it with the sigils and the content
gives what the call of the family gives.

## Main definitions

* `Value.isNumber` — whether a value makes a family of 24-bit colours take three components.
* `HoldsBound` — a world holds a family, and a brush that it becomes with some parameters.

## Main statements

* `ColorFamily.bind_params` — which parameters give a brush.
* `ColorFamily.call_bound` — the parameters in a call give the brush that is called.
* `run_bindValue` — making the brush leaves its parameters what they are.
* `call_family_eq_call_bound` — a family called with parameters and content is the brush of the
  parameters called with the content.
-/

namespace Sgr

/-- Whether a value is a number, as the first component of a colour is. Truth values are not. -/
def Value.isNumber : Value → Bool
  | .int _ | .level _ | .float _ => true
  | _ => false

/-! ## Parameters -/

/-- What equals a truth value has no parts. -/
theorem Value.isClosed_of_equal_bool {v : Value} {b : Bool} (h : v.equal (.bool b)) :
    v.isClosed := by
  have hscalar (hv : v.int? = none) (hw : equalScalar.ofInt (if b then 1 else 0) v = false) :
      equalScalar v (.bool b) = false := by
    cases v <;> simp_all [equalScalar, int?, whole?]
  rw [Value.equal] at h
  cases v with
  | list | tuple | set | openSet | dict | deferred => simp [equalWith] at h
  | shade | cell | makeshift => simp [equalWith, hscalar rfl rfl] at h
  | _ => rfl

/-- A number mentions no cell and is no sigil. -/
theorem Value.param_of_isNumber {v : Value} (h : v.isNumber) :
    v.isClosed ∧ v.isLeadingSigil = false := by
  cases v with
  | int | level | float => exact ⟨rfl, rfl⟩
  | _ => cases h

namespace Color

variable {v : Value} {p : Plane} {c : Color}

theorem isNumber_of_byteOf {what : Component} {b : Fin 256} (h : byteOf what v = .ok b) :
    v.isNumber := by
  cases v with
  | int | level => rfl
  | _ => cases h

theorem isNumber_of_componentOf {what : Component} {b : Fin 256}
    (h : componentOf what v = .ok b) : v.isNumber := by
  cases v with
  | float => rfl
  | _ => exact isNumber_of_byteOf h

/-- The components of a colour are three numbers. -/
theorem numbers_of_ofComponents {items : List Value} (h : ofComponents v items p = .ok c) :
    ∃ r g b, items = [r, g, b] ∧ r.isNumber ∧ g.isNumber ∧ b.isNumber := by
  match items with
  | [r, g, b] =>
    obtain ⟨x, hr, h⟩ := exists_of_bind_ok h
    obtain ⟨y, hg, h⟩ := exists_of_bind_ok h
    obtain ⟨z, hb, -⟩ := exists_of_bind_ok h
    exact ⟨r, g, b, rfl, isNumber_of_componentOf hr, isNumber_of_componentOf hg,
      isNumber_of_componentOf hb⟩
  | [] | [_] | [_, _] | _ :: _ :: _ :: _ :: _ => cases h

/-- What can be read as a colour mentions no cell and is no sigil. -/
theorem ofValue_param (h : ofValue v p = .ok c) : v.isClosed ∧ v.isLeadingSigil = false := by
  cases v with
  | color | text | int | level => exact ⟨rfl, rfl⟩
  | sigil s => cases s <;> cases h
  | tuple items | list items =>
    obtain ⟨r, g, b, rfl, hr, hg, hb⟩ := numbers_of_ofComponents h
    refine ⟨?_, rfl⟩
    simp [Value.isClosed, Value.isClosed.allClosed, Value.param_of_isNumber, *]
  | shade base bright q =>
    refine ⟨?_, rfl⟩
    show bright.isClosed
    rw [ofValue, ofShade] at h
    split at h
    · next hequal => exact Value.isClosed_of_equal_bool hequal
    · split at h
      · next hequal => exact Value.isClosed_of_equal_bool hequal
      · cases h
  | _ => cases h

end Color

namespace ColorFamily

variable {f : ColorFamily} {b : Brush} {params : List Value}

/-- A single parameter that gives a colour of 24 bits. -/
theorem packedColor_param {v : Value} {c : Color} (h : f.packedColor v = .ok c) :
    v.isClosed ∧ v.isLeadingSigil = false := by
  cases v with
  | int | level | text => exact ⟨rfl, rfl⟩
  | sigil s => cases s <;> cases h
  | _ => exact Color.ofValue_param (p := f.plane) h

theorem indexedOf_param {v : Value} {p : Plane} {c : Color} (h : Color.indexedOf v p = .ok c) :
    v.isClosed ∧ v.isLeadingSigil = false := by
  obtain ⟨i, hi, -⟩ := exists_of_map_ok h
  exact Value.param_of_isNumber (Color.isNumber_of_byteOf hi)

/-- The parameters of a brush are one value, or the three numbers of a colour of 24 bits. None of
them mentions a cell or is a sigil that could stand in front of them. -/
theorem bind_params (h : f.bind params = .ok b) :
    (∀ v ∈ params, v.isClosed ∧ v.isLeadingSigil = false) ∧
    ((∃ v, params = [v]) ∨ f.isRgb ∧ ∃ r g b, params = [r, g, b] ∧ r.isNumber) := by
  obtain ⟨c, hc, -⟩ := exists_of_bind_ok h
  unfold color at hc
  by_cases hrgb : f.isRgb
  · rw [if_pos hrgb] at hc
    match params, hc with
    | [v], hc => exact ⟨by simpa using packedColor_param (mapError_eq_ok.mp hc), .inl ⟨v, rfl⟩⟩
    | [r, g, b], hc =>
      have hcomponents : Color.ofComponents (.tuple [r, g, b]) [r, g, b] f.plane = .ok c :=
        mapError_eq_ok.mp hc
      obtain ⟨_, _, _, hitems, hr, hg, hb⟩ := Color.numbers_of_ofComponents hcomponents
      cases hitems
      refine ⟨?_, .inr ⟨hrgb, r, g, b, rfl, hr⟩⟩
      simp [Value.param_of_isNumber, hr, hg, hb]
  · rw [if_neg hrgb] at hc
    match params, hc with
    | [v], hc => exact ⟨by simpa using indexedOf_param (mapError_eq_ok.mp hc), .inl ⟨v, rfl⟩⟩

/-! ## Calls -/

variable {store : Store} {constFormat : Bool}

/-- A call takes as many parameters as the brush has, as long as a single one is no number that a
family of 24-bit colours takes for the first of three. -/
theorem paramCount_append (h : f.bind params = .ok b)
    (hsingle : f.isRgb → ∀ v, params = [v] → v.isNumber = false) (content : List Value) :
    f.paramCount (params ++ content) = params.length := by
  obtain ⟨-, ⟨v, rfl⟩ | ⟨hrgb, r, g, b, rfl, hr⟩⟩ := bind_params h
  · by_cases hrgb : f.isRgb
    · have hv := hsingle hrgb v rfl
      cases v with
      | int | level | float => cases hv
      | _ => simp [paramCount]
    · simp [paramCount, hrgb]
  · cases r with
    | int | level | float => simp [paramCount, hrgb]
    | _ => cases hr

theorem modes_of_bind (h : f.bind params = .ok b) : b.modes = {} := by
  obtain ⟨c, -, hb⟩ := exists_of_bind_ok h
  cases hb
  rfl

/-- Behind a preamble stand the parameters, which are looked up, and then the content, in front of
which a sigil is dropped. -/
theorem call_bound (preamble : Preamble) (h : f.bind (store.viewAll params) = .ok b)
    (hsingle : f.isRgb → ∀ v, store.viewAll params = [v] → v.isNumber = false)
    {content : List Value} (hcontent : ∀ v ∈ content, v.isLeadingSigil = false)
    (named : List (String × Value)) :
    f.call store constFormat (preamble.tokens ++ (params ++ content)) named =
      b.call store constFormat (preamble.tokens ++ dropParamsEnd content) named := by
  have hparams : ∀ v ∈ params, v.isLeadingSigil = false := by
    intro v hv
    have hview := ((bind_params h).1 (store.view v) ?_).2
    · cases v with
      | sigil => simpa [Store.view, Store.expand] using hview
      | _ => rfl
    · rw [Store.viewAll_eq_map]
      exact List.mem_map_of_mem hv
  have hall : ∀ v ∈ params ++ content, v.isLeadingSigil = false := by
    simpa [or_imp, forall_and] using ⟨hparams, hcontent⟩
  have hdropped : ∀ v ∈ dropParamsEnd content, v.isLeadingSigil = false := by
    intro v hv
    refine hcontent v ?_
    unfold dropParamsEnd at hv
    split at hv
    · exact List.mem_cons_of_mem _ hv
    · exact hv
  by_cases hc : Leading.IsDisabled constFormat preamble.tokens
  · have hdisabled {rest : List Value} (hrest : ∀ v ∈ rest, v.isLeadingSigil = false) :
        Leading.read constFormat (preamble.tokens ++ rest) = .error .constFormatDisabled :=
      Leading.read_of_disabled <|
        (Leading.isDisabled_append fun v hv => hrest v (List.mem_of_mem_head? hv)).mpr hc
    rw [call, Brush.call, hdisabled hall, hdisabled hdropped]
    rfl
  · have hcount : f.paramCount (store.viewAll (params ++ content)) = params.length := by
      rw [Store.viewAll_eq_map, List.map_append, ← Store.viewAll_eq_map,
        paramCount_append h hsingle, Store.viewAll_eq_map, List.length_map]
    have hlength : ¬(params ++ content).length < params.length := by
      simp
    rw [call, Leading.read_preamble preamble hc hall,
      Brush.call_of_no_modes (modes_of_bind h) preamble hc hdropped]
    simp only [Leading.ofPreamble, InContext.ofExcept_ok, pure_bind, hcount, if_neg hlength,
      List.take_left, List.drop_left, h]
    rfl

end ColorFamily

/-! ## In a world -/

/-- In a world, a value is a family, which becomes a brush with some parameters, and another value
is that brush. A single parameter is no number that the family would take for the first of three. -/
structure HoldsBound (w : World) (m m' : Value) (f : ColorFamily) (params : List Value)
    (b : Brush) : Prop where
  family : w.store.contents m = .family f
  bind : f.bind (w.store.viewAll params) = .ok b
  single : f.isRgb → ∀ v, w.store.viewAll params = [v] → v.isNumber = false
  brush : w.store.contents m' = .brush b

variable {w : World} {m m' : Value} {f : ColorFamily} {params : List Value} {b : Brush}

/-- Making a brush of a family adds a cell that holds it, and the parameters would give the same
brush again. -/
theorem run_bindValue (hm : w.store.contents m = .family f)
    (hbind : f.bind (w.store.viewAll params) = .ok b)
    (hsingle : f.isRgb → ∀ v, w.store.viewAll params = [v] → v.isNumber = false) :
    ∃ m' w', (bindValue m params).run.run w = (.ok m', w') ∧ w'.toContext = w.toContext ∧
      HoldsBound w' m m' f params b := by
  let added := w.store.add (.brush b)
  have hview : added.2.viewAll params = w.store.viewAll params := by
    have hclosed := (ColorFamily.bind_params hbind).1
    rw [Store.viewAll_eq_map] at hclosed ⊢
    rw [Store.viewAll_eq_map]
    exact List.map_congr_left fun v hv =>
      w.store.view_add (hclosed _ (List.mem_map_of_mem hv)).1 (.brush b)
  refine ⟨added.1, { w with store := added.2 }, ?_, rfl, Store.contents_add hm rfl _, ?_, ?_,
    Store.contents_add_self _ _⟩
  · rw [bindValue, run_bind_ok (run_toolOf?_value (t := .family f) hm)]
    simp only
    rw [run_bind_ok (run_get w), hbind]
    rfl
  · rw [hview, hbind]
  · rwa [hview]

/-- The call of a family is the call of the brush that it becomes, whatever sigils stand in front of
the parameters. -/
theorem callValue_family (h : HoldsBound w m m' f params b)
    (preamble : Preamble) {content : List Value}
    (hcontent : ∀ v ∈ content, v.isLeadingSigil = false) {named : List (String × Value)}
    (hnamed : ∀ a ∈ named, a.1 ≠ "self") :
    (callValue m (preamble.tokens ++ (params ++ content)) named).run.run w =
      (callValue m' (preamble.tokens ++ ColorFamily.dropParamsEnd content) named).run.run w := by
  have hstyled (enabled : Bool) :
      styledIn ((Tool.family f).call w.store enabled
          (preamble.tokens ++ (params ++ content)) named) =
        styledIn ((Tool.brush b).call w.store enabled
          (preamble.tokens ++ ColorFamily.dropParamsEnd content) named) :=
    congrArg styledIn (ColorFamily.call_bound preamble h.bind h.single hcontent named)
  rw [run_callValue_tool (t := .family f) h.family _ hnamed,
    run_callValue_tool (t := .brush b) h.brush _ hnamed]
  simp only [hstyled]

/-- A family becomes a brush with parameters that fit it. In every world where both are held, the
brush called with sigils and content gives what the family gives when the parameters stand between
them, with the sigil that ends the parameters or, unless the content starts with another one of
these, without it. Both do the same to the world, and fail alike if they fail. -/
theorem call_family_eq_call_bound (hm : w.store.contents m = .family f)
    (hbind : f.bind (w.store.viewAll params) = .ok b)
    (hsingle : f.isRgb → ∀ v, w.store.viewAll params = [v] → v.isNumber = false) :
    (∃ m' w', (bindValue m params).run.run w = (.ok m', w') ∧ w'.toContext = w.toContext ∧
      HoldsBound w' m m' f params b) ∧
    ∀ w' m', HoldsBound w' m m' f params b →
      ∀ (preamble : Preamble) (content : List Value) (named : List (String × Value)),
        (∀ v ∈ content, v.isLeadingSigil = false) → (∀ a ∈ named, a.1 ≠ "self") →
        (callValue m (preamble.tokens ++ params ++ .sigil .paramsEnd :: content) named).run.run w' =
          (callValue m' (preamble.tokens ++ content) named).run.run w' ∧
        (content.head? ≠ some (.sigil .paramsEnd) →
          (callValue m (preamble.tokens ++ params ++ content) named).run.run w' =
            (callValue m' (preamble.tokens ++ content) named).run.run w') := by
  refine ⟨run_bindValue hm hbind hsingle, ?_⟩
  intro w' m' h preamble content named hcontent hnamed
  have hended : ∀ v ∈ Value.sigil .paramsEnd :: content, v.isLeadingSigil = false := by
    simpa [Value.isLeadingSigil, Sigil.isLeading] using hcontent
  rw [List.append_assoc, List.append_assoc]
  refine ⟨callValue_family h preamble hended hnamed, fun hfirst => ?_⟩
  have hkept : ColorFamily.dropParamsEnd content = content := by
    unfold ColorFamily.dropParamsEnd
    split
    · exact absurd rfl hfirst
    · rfl
  rw [callValue_family h preamble hcontent hnamed, hkept]

/-- Red text from three components, whose content starts with a number again. -/
theorem call_family_eq_call_bound_red :
    let w : World := { settings := some {} }
    let family : Value := .family ⟨"fg_rgb", .foreground, true⟩
    let params : List Value := [.int 255, .int 0, .int 0]
    let content : List Value := [.int 1, .text "a"]
    ∃ m' w', (bindValue family params).run.run w = (.ok m', w') ∧
      (callValue family (.sigil .string :: params ++ .sigil .paramsEnd :: content) []).run.run w' =
        (callValue m' (.sigil .string :: content) []).run.run w' ∧
      (callValue family (.sigil .string :: params ++ content) []).run.run w' =
        (callValue m' (.sigil .string :: content) []).run.run w' := by
  intro w family params content
  have hview : w.store.viewAll params = params := by
    simp [Store.viewAll, Store.expandAll, Store.expand, params]
  have hcolor : (⟨"fg_rgb", .foreground, true⟩ : ColorFamily).color params =
      .ok (.rgb 255 0 0 .foreground) := rfl
  have hcontent : ∀ v ∈ content, v.isLeadingSigil = false := by
    simp [content, Value.isLeadingSigil]
  let preamble : Preamble :=
    { Leading.noPreamble with
      output := some .string
      isOutput := by simp [Sigil.isOutput, Sigil.output?]
      separates := by simp }
  have hsingle : ∀ v, w.store.viewAll params = [v] → v.isNumber = false := by
    simp [hview, params]
  obtain ⟨⟨m', w', hrun, -, h⟩, hcall⟩ := call_family_eq_call_bound (w := w) (m := family) rfl
    (by rw [hview, ColorFamily.bind, hcolor]; rfl) fun _ => hsingle
  have hforms := hcall w' m' h preamble content [] hcontent (by simp)
  exact ⟨m', w', hrun, hforms.1, hforms.2 (by simp [content])⟩

end Sgr
