import Sgr.Proofs.Content.Modes
import Sgr.Proofs.Session.Evaluation
import Sgr.Proofs.Template.Silent

/-!
# Which calls ask for the settings

A call of a brush or a family asks whether constant text is allowed before it looks at its tokens, and
so does a call by name and the method for constant text. The other methods do not: literal and
deferred content is put together without a question, and a text asks only where a field of its
template steps into a brush by a key. Keys in brackets ask if they are texts of sigils. What is asked
in an expression is what is asked in its parts, up to the first failure.

## Main definitions

* `World.calls`, `World.methodAsks` — when a call and a method ask.
* `BrushParts.textAsks` — when making a text asks.
* `Expr.asks`, `ToolExpr.asks`, `Call.asks` — when an expression does.

## Main statements

* `callValue_asksIf`, `invoke_asksIf`, `callMethod_asksIf`, `bracket_asksIf` — the calls and the keys.
* `methodAsks_string_of_silent` — a text of silent arguments is made without a question.
* `Expr.eval_asksIf`, `ToolExpr.eval_asksIf`, `Call.eval_asksIf` — expressions.
-/

namespace Sgr

variable {α : Type} {w : World} {v : Value} {tokens : List Value} {named : List (String × Value)}

/-! ## Quiet actions -/

@[grind ←] theorem newCell_quiet (v : Value) : Quiet (newCell v) :=
  .modifyStore fun s => s.add v

@[grind ←] theorem viewValue_quiet (v : Value) : Quiet (viewValue v) := by
  unfold viewValue
  grind

@[grind ←] theorem styledValue_quiet (r : Styled) : Quiet (styledValue r) := by
  unfold styledValue
  grind

@[grind ←] theorem toolOf?_quiet (v : Value) : Quiet (toolOf? v) := by
  unfold toolOf?
  grind

@[grind ←] theorem partsOf?_quiet (v : Value) : Quiet (partsOf? v) := by
  unfold partsOf?
  grind

@[grind ←] theorem lacks_quiet (v : Value) (name : String) : Quiet (lacks v name : Action α) := by
  unfold lacks
  grind

/-- Other modes for a brush, and what it resolves to, are found without a question. -/
theorem withModes_quiet (v : Value) (output : Option OutputMode) (revert : Option RevertMode) :
    Quiet (withModes v output revert) := by
  unfold withModes
  grind

theorem resolutionOf_quiet (v : Value) (revert : Option RevertMode) :
    Quiet (resolutionOf v revert) := by
  unfold resolutionOf
  grind

@[grind ←] theorem record_quiet (level : LogLevel) (logger message : String) :
    Quiet (Action.record level logger message) :=
  ⟨.modifyGet (fun _ => rfl) fun _ => rfl, fun _ => rfl⟩

theorem bindValue_quiet (v : Value) (params : List Value) : Quiet (bindValue v params) := by
  unfold bindValue
  grind

theorem paint_quiet (args : List Value) : Quiet (paint args) := by
  have pair (text : String) : Quiet (parsePair text) := by
    unfold parsePair
    grind
  have color (v : Value) (p : Plane) : Quiet (optionalColor v p) := by
    unfold optionalColor
    grind
  have colors (fg bg : Value) : Quiet (paintColors fg bg) := by
    unfold paintColors
    grind
  unfold paint
  grind

@[grind ←] theorem memberOf_quiet (typeName : String) (find : String → Option α) (v : Value) :
    Quiet (memberOf typeName find v) := by
  unfold memberOf
  grind

@[grind ←] theorem checkKey_quiet (v : Value) : Quiet (checkKey v) := by
  unfold checkKey
  grind

theorem shareValue_quiet (v : Value) : Quiet (shareValue v) :=
  .modifyStore fun s => s.share v

theorem find_quiet (vars : Variables) (name : String) : Quiet (vars.find name) := by
  unfold Variables.find
  grind

@[grind ←] theorem optionalOf_quiet {β γ : Type} {read : β → Action γ} (h : ∀ b, Quiet (read b))
    (o : Option β) : Quiet (optionalOf read o) := by
  unfold optionalOf
  grind

/-! ## What is looked up -/

section

variable {β : Type} {x : Action α}

/-- Looking up a value is no question, and what follows may depend on it. -/
theorem AsksIf.view_bind (v : Value) {f : Value → Action β} {rest : Value → World → Bool}
    (hf : ∀ u, AsksIf (rest u) (f u)) :
    AsksIf (fun w => rest (w.store.view v) w) (viewValue v >>= f) :=
  .quiet_bind (viewValue_quiet v) (fun _ => rfl) hf

theorem AsksIf.viewed_bind (v : Value) {f : Value → Action β} {asked : World → Bool}
    (hf : ∀ u, AsksIf asked (f u)) : AsksIf asked (viewValue v >>= f) := by
  have h := AsksIf.view_bind v hf
  exact h

theorem AsksIf.toolOf?_bind (v : Value) {f : Option Tool → Action β}
    {rest : Option Tool → World → Bool} (hf : ∀ t, AsksIf (rest t) (f t)) :
    AsksIf (fun w => rest (w.store.contents v).tool? w) (toolOf? v >>= f) :=
  .quiet_bind (toolOf?_quiet v) (fun _ => rfl) hf

theorem AsksIf.partsOf?_bind (v : Value) {f : Option BrushParts → Action β}
    {rest : Option BrushParts → World → Bool} (hf : ∀ p, AsksIf (rest p) (f p)) :
    AsksIf (fun w => rest (w.store.view v).brushParts? w) (partsOf? v >>= f) :=
  .quiet_bind (partsOf?_quiet v) (fun _ => rfl) hf

/-- A look at the cells is no question. -/
theorem AsksIf.look_bind {f : World → Action β} {rest : World → World → Bool}
    (hf : ∀ w, AsksIf (rest w) (f w))
    (hcontext : ∀ (w : World) (c : Context), f { w with toContext := c } = f w) :
    AsksIf (fun w => rest w w) (get >>= f) :=
  .get_bind hf fun w => hcontext w _

/-- Behind a result, the rest asks as it does for it; behind a failure nothing does. -/
theorem AsksIf.lift_bind {ε : Type} (g : ε → Failure) (r : Except ε α) {f : α → Action β}
    {rest : α → World → Bool} (hf : ∀ a, AsksIf (rest a) (f a)) :
    AsksIf (fun w => match r with
      | .ok a => rest a w
      | .error _ => false) (Action.lift g r >>= f) := by
  cases r with
  | error e => exact (Quiet.throw (g e)).asksIf
  | ok a => exact hf a

/-- A name that is given twice is refused before anything can ask. -/
theorem AsksIf.refuseNamed_bind (function parameter : String) (named : List (String × Value))
    {f : Unit → Action β} {asked : World → Bool} (hf : AsksIf asked (f ())) :
    AsksIf (fun w => !named.any (·.1 = parameter) && asked w)
      (refuseNamed function parameter named >>= f) := by
  unfold refuseNamed
  split
  · next h =>
    rw [h]
    exact (Quiet.throw _).asksIf
  · next h =>
    rw [Bool.not_eq_true] at h
    simp only [h, Bool.not_false, Bool.true_and]
    exact hf

/-- So is what cannot be a key. -/
theorem AsksIf.checkKey_bind (v : Value) {f : Unit → Action β} {asked : World → Bool}
    (hf : AsksIf asked (f ())) :
    AsksIf (fun w => (w.store.view v).unhashable?.isNone && asked w) (checkKey v >>= f) := by
  let rest (u : Value) (w : World) : Bool := u.unhashable?.isNone && asked w
  rw [checkKey, bind_assoc]
  refine .view_bind v fun u => (?_ : AsksIf (rest u) _)
  simp only [rest]
  cases u.unhashable? with
  | none => exact hf
  | some typeName => exact (Quiet.throw _).asksIf

end

/-! ## Calls -/

theorem asking_asksIf {k : Bool → Action Value} (hk : ∀ allowed, Lazy (k allowed)) :
    AsksIf (fun _ => true) (asking k) :=
  (mayBeConstant_asksIf.inContext _).question_bind hk

theorem styledIn_lazy {x : InContext Failure Styled} (h : Lazy x) : Lazy (styledIn x) :=
  (h.inContext id).bind fun r => (styledValue_quiet r).lazy

theorem askingToStyle_asksIf {style : Store → Bool → InContext Failure Styled}
    (h : ∀ store allowed, Asks allowed Failure.errorClass (style store allowed)) :
    AsksIf (fun _ => true) (askingToStyle style) :=
  asking_asksIf fun allowed => .get_bind (fun w => styledIn_lazy (h w.store allowed).lazy) fun _ => rfl

theorem callSelf_asksIf (function : String) (named : List (String × Value))
    {style : Store → Bool → InContext Failure Styled}
    (h : ∀ store allowed, Asks allowed Failure.errorClass (style store allowed)) :
    AsksIf (fun _ => !named.any (·.1 = "self"))
      (refuseNamed function "self" named >>= fun _ => askingToStyle style) := by
  have hself := AsksIf.refuseNamed_bind (f := fun _ => _) function "self" named
    (askingToStyle_asksIf h)
  simp only [Bool.and_true] at hself
  exact hself

theorem callTool_asksIf (t : Tool) (tokens : List Value) (named : List (String × Value)) :
    AsksIf (fun _ => !named.any (·.1 = "self")) (callTool t tokens named) := by
  rw [callTool_eq]
  exact callSelf_asksIf _ named fun _ _ => t.call_asks tokens named

/-- Whether a value can be called: a brush, whether its parts fit or not, or a family. -/
def World.calls (w : World) (v : Value) : Bool :=
  (w.store.contents v).tool?.isSome || (w.store.view v).brushParts?.isSome

theorem callAs_asksIf (v : Value) (tokens : List Value) (named : List (String × Value))
    (t : Option Tool) (p : Option BrushParts) :
    AsksIf (fun _ => (t.isSome || p.isSome) && !named.any (·.1 = "self"))
      (callAs v tokens named t p) := by
  unfold callAs
  split
  · exact callTool_asksIf _ tokens named
  · exact callSelf_asksIf _ named fun _ _ => BrushParts.call_asks _ tokens named
  · exact ((viewValue_quiet v).bind fun _ => .throw _).asksIf

/-- A call of a brush or a family asks, unless a named argument is in its way. -/
theorem callValue_asksIf (v : Value) (tokens : List Value) (named : List (String × Value)) :
    AsksIf (fun w => w.calls v && !named.any (·.1 = "self")) (callValue v tokens named) :=
  .toolOf?_bind v fun t => .partsOf?_bind v fun p => callAs_asksIf v tokens named t p

/-- A call by name asks if there is a brush or a family of the name, unless a named argument is in
its way. -/
theorem invoke_asksIf (name : String) (tokens : List Value) (named : List (String × Value)) :
    AsksIf (fun _ => !named.any (·.1 = "name") &&
      ((Tool.lookup name).toOption.isSome && !named.any (·.1 = "self"))) (invoke name tokens named) := by
  refine .refuseNamed_bind "invoke" "name" named ?_
  cases Tool.lookup name with
  | error e => exact (Quiet.throw _).asksIf
  | ok t => exact .quiet_bind (record_quiet _ _ _) (fun _ => rfl) fun _ => callTool_asksIf t tokens named

/-! ## Keys in brackets -/

/-- A text of sigils asks, whether they are in order or not. -/
theorem readPrefix_asksIf (shown text : String) :
    AsksIf (fun _ => (Sigil.tokenize text).toOption.isSome) (readPrefix shown text none) := by
  unfold readPrefix
  cases Sigil.tokenize text with
  | error e => exact (Quiet.throw _).asksIf
  | ok sigils =>
    refine (mayBeConstant_asksIf.mapError _).question_bind fun enabled => ?_
    exact (Lazy.ofExcept _ _).bind fun _ => (logRecord_lazy _ _ _).bind fun _ => .pure _

theorem prefixOf_asksIf (key : Value) : AsksIf (fun _ => isSigils key) (prefixOf key) := by
  unfold prefixOf isSigils
  cases key.text? with
  | none => exact (Quiet.throw _).asksIf
  | some text => exact (readPrefix_asksIf _ text).mapError _

theorem index_asksIf (t : Tool) (key : Value) :
    AsksIf (fun _ => match t with
      | .brush _ => isSigils key
      | .family _ => false) (t.index key) := by
  cases t with
  | brush b => exact (prefixOf_asksIf key).bind_quiet fun _ => .pure _
  | family f => exact (Quiet.ofExcept _ _).asksIf

theorem BrushParts.index_asksIf (p : BrushParts) (key : Value) :
    AsksIf (fun _ => isSigils key) (p.index key) :=
  (prefixOf_asksIf key).bind_quiet fun _ => .ofExcept _ _

theorem indexTool_asksIf (t : Tool) (key : Value) :
    AsksIf (fun w => match t with
      | .brush _ => isSigils (w.store.view key)
      | .family _ => false) (indexTool t key) :=
  .view_bind key fun u => (index_asksIf t u).inContext Failure.bracket

theorem bracketAs_asksIf (v key : Value) (t : Option Tool) (p : Option BrushParts) :
    AsksIf (fun w => match t, p with
      | some (.brush _), _ => isSigils (w.store.view key)
      | some (.family _), _ => false
      | none, p => p.isSome && isSigils (w.store.view key)) (bracketAs v key t p) := by
  unfold bracketAs
  rcases t with _ | t
  · rcases p with _ | p
    · have item : Quiet (do Action.lift .access ((← get).store.item v key)) :=
        .look (fun _ => .lift _ _) fun _ _ => rfl
      exact item.asksIf
    · exact .view_bind key fun u => ((p.index_asksIf u).inContext _).bind_quiet newCell_quiet
  · have h := (indexTool_asksIf t key).bind_quiet fun b => newCell_quiet (.brush b)
    cases t <;> exact h

/-- A key in brackets behind a brush asks if it is a text of nothing but sigils; one behind something
else does not. -/
theorem bracket_asksIf (v key : Value) :
    AsksIf (fun w => (w.store.view v).brushParts?.isSome && isSigils (w.store.view key))
      (bracket v key) := by
  have h : AsksIf _ (bracket v key) :=
    .toolOf?_bind v fun t => .partsOf?_bind v fun p => bracketAs_asksIf v key t p
  refine ⟨h.lazy, fun w => (h.reads w).trans ?_⟩
  cases hcontents : w.store.contents v with
  | brush b =>
    rw [Store.view_of_brush hcontents]
    rfl
  | family f =>
    rw [Store.view_of_family hcontents]
    rfl
  | _ => rfl

/-! ## Methods -/

/-- Literal and deferred content is put together without a question. -/
theorem BrushParts.style_quiet (p : BrushParts) {modes : Modes}
    (h : modes.output = .literal ∨ modes.output = .format) (store : Store) (constFormat : Bool)
    (tokens : List Value) (named : List (String × Value)) :
    Quiet (p.style store constFormat modes tokens named) := by
  have wrapped (r : Resolution) (content : Content) : Quiet (r.wrap store content modes.output) := by
    unfold Resolution.wrap assemble
    rcases h with h | h <;> rw [h] <;> cases content <;> grind
  unfold style
  grind

/-- A template asks if it is filled and the filling asks. -/
theorem renderTemplate_asksIf (t : String) (args : Arguments) :
    AsksIf (Reads (renderTemplate t args)) (renderTemplate t args) :=
  ⟨(@renderTemplate_asks true t args).lazy, fun _ => rfl⟩

/-- The sequences around a template ask nothing. -/
theorem Resolution.reads_between (r : Resolution) (t : String) (args : Arguments) (c : Context) :
    Reads (renderTemplate (String.ofList r.opening ++ t ++ String.ofList r.closing) args) c =
      Reads (renderTemplate t args) c := by
  have alone : AsksIf (Reads (renderTemplate t args)) (r.outcome t args) :=
    ((renderTemplate_asksIf t args).mapError _).bind_quiet fun _ => .pure _
  rw [← reads_mapError _ TemplateError.signature, renderTemplate_between]
  exact alone.reads c

/-- Whether content that becomes a text asks: a template does if filling it does. -/
def Content.asks (store : Store) (content : Content) (c : Context) : Bool :=
  match content with
  | .literal _ => false
  | .template v args =>
    match (store.view v).text? with
    | some t => Reads (renderTemplate t (store.viewArguments args)) c
    | none => false

theorem Resolution.wrap_string_asksIf (r : Resolution) (store : Store) (content : Content) :
    AsksIf (content.asks store) (r.wrap store content .string) := by
  unfold wrap assemble Content.asks
  cases content with
  | literal parts => exact (Quiet.throw _).asksIf
  | template v args =>
    dsimp only
    cases (store.view v).text? with
    | none => exact (Quiet.throw _).asksIf
    | some t =>
      have filled := (renderTemplate_asksIf
        (String.ofList r.opening ++ t ++ String.ofList r.closing) (store.viewArguments args))
      have same := funext (r.reads_between t (store.viewArguments args))
      rw [same] at filled
      exact (filled.mapError _).bind_quiet fun _ => .pure _

/-- Whether parts ask when they make a text of tokens. -/
def BrushParts.textAsks (p : BrushParts) (store : Store) (revert : RevertMode) (tokens : List Value)
    (named : List (String × Value)) (c : Context) : Bool :=
  match Content.ofTokens .string tokens named, p.resolve (some revert) with
  | .ok content, .ok _ => content.asks store c
  | _, _ => false

theorem BrushParts.style_string_asksIf (p : BrushParts) (store : Store) (constFormat : Bool)
    (revert : RevertMode) (tokens : List Value) (named : List (String × Value)) :
    AsksIf (p.textAsks store revert tokens named)
      (p.style store constFormat ⟨.string, revert⟩ tokens named) := by
  unfold style textAsks
  cases Content.ofTokens .string tokens named with
  | error e => exact (Quiet.throw _).asksIf
  | ok content =>
    cases p.resolve (some revert) with
    | error e => exact (Quiet.throw _).asksIf
    | ok r => exact (r.wrap_string_asksIf store content).mapError _

/-- Whether a method asks, once its arguments are bound. Constant text always does, and a text does
if filling its template does. -/
def Method.asksIn (m : Method) (p : BrushParts) (store : Store) (args : MethodArguments)
    (w : World) : Bool :=
  match m with
  | .constFormat => true
  | .string =>
    p.textAsks store (args.revert.getD p.ownRevert) args.tokens args.named w.toContext
  | .literal | .format => false

theorem styledIn_asksIf {x : InContext Failure Styled} {asked : Context → Bool} (h : AsksIf asked x) :
    AsksIf (fun w => asked w.toContext) (styledIn x) :=
  (h.inContext id).bind_quiet styledValue_quiet

theorem Method.callIn_asksIf (m : Method) (p : BrushParts) (store : Store) (args : MethodArguments) :
    AsksIf (m.asksIn p store args) (m.callIn p store args) := by
  cases m with
  | constFormat =>
    exact asking_asksIf fun allowed =>
      styledIn_lazy (@BrushParts.style_asks allowed store p allowed _ (fun _ h => h) _ _).lazy
  | string => exact styledIn_asksIf (p.style_string_asksIf store false _ _ _)
  | literal => exact styledIn_asksIf (p.style_quiet (.inl rfl) _ _ _ _).asksIf
  | format => exact styledIn_asksIf (p.style_quiet (.inr rfl) _ _ _ _).asksIf

/-- Whether a call by a method asks: the value has to be a brush, and the arguments have to fit. -/
def Method.asksAs (m : Method) (revert : Option RevertMode) (tokens : List Value)
    (named : List (String × Value)) (p : Option BrushParts) (w : World) : Bool :=
  match p, bindArguments m revert tokens (methodNamed w.store named) with
  | some p, .ok args => m.asksIn p w.store args w
  | _, _ => false

theorem Method.callAs_asksIf (m : Method) (v : Value) (revert : Option RevertMode) (tokens : List Value)
    (named : List (String × Value)) (p : Option BrushParts) :
    AsksIf (m.asksAs revert tokens named p) (m.callAs v revert tokens named p) := by
  cases p with
  | none => exact (lacks_quiet v m.name).asksIf
  | some p =>
    have bound (w : World) := AsksIf.lift_bind Failure.binding
      (bindArguments m revert tokens (methodNamed w.store named)) (m.callIn_asksIf p w.store)
    have h := AsksIf.look_bind bound fun _ _ => rfl
    refine ⟨h.lazy, fun w => (h.reads w).trans ?_⟩
    unfold asksAs
    cases bindArguments m revert tokens (methodNamed w.store named) <;> rfl

/-- Whether a call by a method of a value asks. -/
def World.methodAsks (w : World) (v : Value) (m : Method) (revert : Option RevertMode)
    (tokens : List Value) (named : List (String × Value)) : Bool :=
  m.asksAs revert tokens named (w.store.view v).brushParts? w

theorem callMethod_asksIf (v : Value) (m : Method) (revert : Option RevertMode)
    (tokens : List Value) (named : List (String × Value)) :
    AsksIf (fun w => w.methodAsks v m revert tokens named) (callMethod v m revert tokens named) :=
  .partsOf?_bind v (m.callAs_asksIf v revert tokens named)

/-- Literal and deferred content is made by its method without a question. -/
theorem methodAsks_of_kept {m : Method} {revert : Option RevertMode}
    (h : m = .literal ∨ m = .format) : w.methodAsks v m revert tokens named = false := by
  unfold World.methodAsks Method.asksAs
  split
  · rcases h with rfl | rfl <;> rfl
  · rfl

/-! ## Texts of silent arguments -/

/-- A value of which a template asks nothing, as it is looked up, and which asks nothing as a
template. -/
structure Store.SeesSilent (store : Store) (keys : Bool) (v : Value) : Prop where
  silent : (store.view v).isSilent keys
  template : v.hasSigils → keys

/-- A text of silent tokens is made without a question. -/
theorem BrushParts.textAsks_of_silent {store : Store} {keys : Bool} (p : BrushParts)
    (revert : RevertMode) (htokens : ∀ v ∈ tokens, store.SeesSilent keys v)
    (hnamed : ∀ a ∈ named, store.SeesSilent keys a.2) (c : Context) :
    p.textAsks store revert tokens named c = false := by
  have viewed {positional : List Value} (hp : ∀ v ∈ positional, store.SeesSilent keys v) :
      (store.viewArguments ⟨positional, named⟩).IsSilent keys := by
    constructor
    · simp only [Store.viewArguments, Store.viewAll_eq_map, List.mem_map]
      rintro _ ⟨v, hv, rfl⟩
      exact (hp v hv).silent
    · simp only [Store.viewArguments, Store.viewNamed, List.mem_map]
      rintro _ ⟨a, ha, rfl⟩
      exact (hnamed a ha).silent
  have filled {template : Value} {t : String} {positional : List Value}
      (ht : (store.view template).text? = some t) (hkeys : templateHasSigils t.toList → keys)
      (hp : ∀ v ∈ positional, store.SeesSilent keys v) :
      Content.asks store (.template template ⟨positional, named⟩) c = false := by
    rw [Content.asks, ht]
    exact (renderTemplate_computes (viewed hp) hkeys).quiet.silent c
  unfold textAsks
  split
  · next content _ hcontent _ =>
    have htemplate : OutputMode.string.needsTemplate = true := rfl
    rw [Content.ofTokens.eq_def, if_pos htemplate] at hcontent
    split at hcontent
    · cases hcontent
    · next v rest =>
      split at hcontent
      · next htext =>
        cases hcontent
        obtain ⟨t, ht⟩ := Option.isSome_iff_exists.mp htext
        refine filled (store.view_of_text? ht ▸ ht) (fun hsigils => ?_) ?_
        · exact (htokens v List.mem_cons_self).template (by rw [Value.hasSigils, ht]; exact hsigils)
        · exact fun u hu => htokens u (List.mem_cons_of_mem v hu)
      · cases hcontent
        refine filled (by rw [Store.view_text]; rfl) (fun hsigils => ?_) htokens
        rw [String.toList_ofList, templateHasSigils_fields] at hsigils
        cases hsigils
  · rfl

/-- What is bound has the properties of what is given. -/
theorem bindNamed_forall {P : Value → Prop} {m : Method} {named : List (String × Value)}
    {args args' : MethodArguments} (htokens : ∀ v ∈ args.tokens, P v)
    (hargs : ∀ a ∈ args.named, P a.2) (hnamed : ∀ a ∈ named, a.1 ≠ "revert" → P a.2)
    (h : bindNamed m args named = .ok args') :
    (∀ v ∈ args'.tokens, P v) ∧ ∀ a ∈ args'.named, P a.2 := by
  induction named generalizing args with
  | nil =>
    cases h
    exact ⟨htokens, hargs⟩
  | cons a rest ih =>
    obtain ⟨hfirst, hrest⟩ := List.forall_mem_cons.mp hnamed
    rw [bindNamed] at h
    split at h
    · cases h
    · split at h
      · refine ih ?_ ?_ hrest h
        · exact htokens
        · exact hargs
      · next hrevert =>
        have ha := hfirst hrevert
        split at h
        · cases h
        · split at h
          · split at h
            · refine ih ?_ ?_ hrest h
              · exact List.forall_mem_singleton.mpr ha
              · exact hargs
            · cases h
          · refine ih ?_ ?_ hrest h
            · exact htokens
            · exact List.forall_mem_append.mpr ⟨hargs, List.forall_mem_singleton.mpr ha⟩

theorem bindArguments_forall {P : Value → Prop} {m : Method} {revert : Option RevertMode}
    {args : MethodArguments} (htokens : ∀ v ∈ tokens, P v)
    (hnamed : ∀ a ∈ named, a.1 ≠ "revert" → P a.2)
    (h : bindArguments m revert tokens named = .ok args) :
    (∀ v ∈ args.tokens, P v) ∧ ∀ a ∈ args.named, P a.2 := by
  unfold bindArguments at h
  dsimp only at h
  split at h
  · cases h
  · rcases hbind : bindNamed m ⟨revert, tokens, []⟩ named with e | bound
    · simp only [hbind] at h
      cases h
    · have hbound := @bindNamed_forall P m named ⟨revert, tokens, []⟩ bound htokens (by simp)
        hnamed hbind
      simp only [hbind, bind, Except.bind] at h
      split at h
      · cases h
      · cases h
        exact hbound

/-- A text is made of silent arguments without a question. -/
theorem methodAsks_string_of_silent {keys : Bool} {revert : Option RevertMode}
    (htokens : ∀ v ∈ tokens, w.store.SeesSilent keys v)
    (hnamed : ∀ a ∈ named, a.1 ≠ "revert" → w.store.SeesSilent keys a.2) :
    w.methodAsks v .string revert tokens named = false := by
  have hothers : ∀ a ∈ methodNamed w.store named, a.1 ≠ "revert" → w.store.SeesSilent keys a.2 := by
    intro a ha hne
    obtain ⟨⟨k, u⟩, hb, rfl⟩ := List.mem_map.mp ha
    dsimp only at hne ⊢
    split at hne
    · next hk => exact absurd hk hne
    · next hk =>
      rw [if_neg hk]
      exact hnamed (k, u) hb hk
  unfold World.methodAsks Method.asksAs
  split
  · next p args _ hargs =>
    obtain ⟨hbound, hbound'⟩ := bindArguments_forall htokens hothers hargs
    exact p.textAsks_of_silent _ hbound hbound' _
  · rfl

/-! ## Expressions -/

variable (vars : Variables)

mutual

/-- Whether an expression asks: the calls in it do, and the keys in brackets. -/
def Expr.asks : Expr → World → Bool
  | .list items, w | .tuple items, w | .set items, w => Expr.allAsk items w
  | .dict entries, w => Expr.entriesAsk entries w
  | .basic base bright _, w =>
    asksThen (base.asks w) (base.eval vars) w fun _ w => bright.asks w
  | .indexed index _, w => index.asks w
  | .rgb red green blue _, w =>
    asksThen (red.asks w) (red.eval vars) w fun _ w =>
      asksThen (green.asks w) (green.eval vars) w fun _ w => blue.asks w
  | .deferred template args named, w =>
    asksThen (template.asks w) (template.eval vars) w fun _ w =>
      asksThen (Expr.allAsk args w) (Expr.evalAll vars args) w fun _ w => Expr.namedAsk named w
  | .call c, w => c.asks w
  | _, _ => false

/-- Whether one of several expressions asks. -/
def Expr.allAsk : List Expr → World → Bool
  | [], _ => false
  | e :: es, w => asksThen (e.asks w) (e.eval vars) w fun _ w => Expr.allAsk es w

/-- Whether one of the entries of a mapping asks. -/
def Expr.entriesAsk : List (Expr × Expr) → World → Bool
  | [], _ => false
  | (k, e) :: es, w =>
    asksThen (k.asks w) (k.eval vars) w fun key w =>
      asksThen (e.asks w) (e.eval vars) w fun _ w =>
        (w.store.view key).unhashable?.isNone && Expr.entriesAsk es w

/-- Whether one of several named arguments asks. -/
def Expr.namedAsk : List (String × Expr) → World → Bool
  | [], _ => false
  | (_, e) :: es, w => asksThen (e.asks w) (e.eval vars) w fun _ w => Expr.namedAsk es w

/-- Whether an expression for a brush asks. A key in brackets does if it is a text of sigils behind a
brush. Other modes are no question. -/
def ToolExpr.asks : ToolExpr → World → Bool
  | .named _, _ | .variable _, _ => false
  | .paint args, w => Expr.allAsk args w
  | .index t e, w =>
    asksThen (t.asks w) (t.eval vars) w fun v w =>
      asksThen (e.asks w) (e.eval vars) w fun key w =>
        (w.store.view v).brushParts?.isSome && isSigils (w.store.view key)
  | .bind t params, w =>
    asksThen (t.asks w) (t.eval vars) w fun _ w => Expr.allAsk params w
  | .modes t _ _, w => t.asks w

/-- Whether a call asks, in its arguments or when it is made: one without a method does unless a
named argument is in its way, and one by a method as the method does. What a brush resolves to is no
question. -/
def Call.asks : Call → World → Bool
  | .direct t tokens named, w =>
    asksThen (t.asks w) (t.eval vars) w fun v w =>
      asksThen (Expr.allAsk tokens w) (Expr.evalAll vars tokens) w fun _ w =>
        asksThen (Expr.namedAsk named w) (Expr.evalNamed vars named) w fun named w =>
          w.calls v && !named.any (·.1 = "self")
  | .method m t tokens named revert, w =>
    asksThen (t.asks w) (t.eval vars) w fun v w =>
      asksThen (Expr.allAsk tokens w) (Expr.evalAll vars tokens) w fun tokens w =>
        asksThen (Expr.namedAsk named w) (Expr.evalNamed vars named) w fun named w =>
          asksThen false (optionalOf revertModeOf revert) w fun revert w =>
            w.methodAsks v m revert tokens named
  | .codes t _, w => t.asks w

end

mutual

/-- Evaluating an expression asks if the expression does. -/
theorem Expr.eval_asksIf (e : Expr) : AsksIf (e.asks vars) (e.eval vars) := by
  cases e with
  | list items =>
    rw [Expr.eval]
    exact (Expr.evalAll_asksIf items).bind_quiet fun vs => newCell_quiet (.list vs)
  | tuple items =>
    rw [Expr.eval]
    exact (Expr.evalAll_asksIf items).bind_quiet fun vs => .pure (Value.tuple vs)
  | set items =>
    rw [Expr.eval]
    exact (Expr.evalAll_asksIf items).bind_quiet fun vs => by grind
  | dict entries =>
    rw [Expr.eval]
    exact (Expr.evalEntries_asksIf [] entries).bind_quiet fun es => newCell_quiet (.dict es)
  | basic base bright plane =>
    rw [Expr.eval]
    refine base.eval_asksIf.bind fun v => .viewed_bind v fun base => ?_
    exact bright.eval_asksIf.bind_quiet fun bright => (memberOf_quiet _ _ _).bind fun _ => .lift _ _
  | indexed index plane =>
    rw [Expr.eval]
    refine index.eval_asksIf.bind_quiet fun v => (viewValue_quiet v).bind fun index => ?_
    exact (memberOf_quiet _ _ _).bind fun _ => .lift _ _
  | rgb red green blue plane =>
    rw [Expr.eval]
    refine red.eval_asksIf.bind fun v => .viewed_bind v fun red => ?_
    refine green.eval_asksIf.bind fun v => .viewed_bind v fun green => ?_
    refine blue.eval_asksIf.bind_quiet fun v => (viewValue_quiet v).bind fun blue => ?_
    exact (memberOf_quiet _ _ _).bind fun _ => .lift _ _
  | deferred template args named =>
    rw [Expr.eval]
    refine template.eval_asksIf.bind fun template => (Expr.evalAll_asksIf args).bind fun args => ?_
    exact (Expr.evalNamed_asksIf named).bind_quiet fun named => newCell_quiet _
  | call c =>
    rw [Expr.eval]
    exact c.eval_asksIf
  | value v =>
    rw [Expr.eval]
    exact (shareValue_quiet v).asksIf
  | fresh v =>
    rw [Expr.eval]
    exact (newCell_quiet v).asksIf
  | «variable» name =>
    rw [Expr.eval]
    exact (find_quiet vars name).asksIf
  | style name =>
    rw [Expr.eval]
    exact ((memberOf_quiet _ _ _).bind fun _ => .pure _).asksIf
  | group name =>
    rw [Expr.eval]
    exact ((memberOf_quiet _ _ _).bind fun _ => .pure _).asksIf
  | sigil name =>
    rw [Expr.eval]
    exact ((memberOf_quiet _ _ _).bind fun _ => .pure _).asksIf

theorem Expr.evalAll_asksIf (es : List Expr) :
    AsksIf (Expr.allAsk vars es) (Expr.evalAll vars es) := by
  cases es with
  | nil => exact (Quiet.pure []).asksIf
  | cons e es =>
    exact e.eval_asksIf.bind fun v => (Expr.evalAll_asksIf es).bind_quiet fun _ => .pure _

theorem Expr.evalEntries_asksIf (done : List (Value × Value)) (es : List (Expr × Expr)) :
    AsksIf (Expr.entriesAsk vars es) (Expr.evalEntries vars done es) := by
  cases es with
  | nil => exact (Quiet.pure done).asksIf
  | cons e es =>
    refine e.1.eval_asksIf.bind fun key => e.2.eval_asksIf.bind fun v => .checkKey_bind key ?_
    have looked := AsksIf.look_bind (fun w => Expr.evalEntries_asksIf
      (Value.putEntryBy w.store.equalPart key v done) es) fun _ _ => rfl
    exact looked

theorem Expr.evalNamed_asksIf (es : List (String × Expr)) :
    AsksIf (Expr.namedAsk vars es) (Expr.evalNamed vars es) := by
  cases es with
  | nil => exact (Quiet.pure []).asksIf
  | cons e es =>
    exact e.2.eval_asksIf.bind fun v => (Expr.evalNamed_asksIf es).bind_quiet fun _ => .pure _

theorem ToolExpr.eval_asksIf (t : ToolExpr) : AsksIf (t.asks vars) (t.eval vars) := by
  cases t with
  | named name =>
    rw [ToolExpr.eval]
    exact ((Quiet.lift _ _).bind fun _ => .pure _).asksIf
  | paint args =>
    rw [ToolExpr.eval]
    exact (Expr.evalAll_asksIf args).bind_quiet fun args =>
      (paint_quiet args).bind fun _ => newCell_quiet _
  | «variable» name =>
    rw [ToolExpr.eval]
    exact (find_quiet vars name).asksIf
  | index t e =>
    rw [ToolExpr.eval]
    exact t.eval_asksIf.bind fun v => e.eval_asksIf.bind fun key => bracket_asksIf v key
  | bind t params =>
    rw [ToolExpr.eval]
    exact t.eval_asksIf.bind fun v => (Expr.evalAll_asksIf params).bind_quiet (bindValue_quiet v)
  | modes t output revert =>
    rw [ToolExpr.eval]
    refine t.eval_asksIf.bind_quiet fun v => ?_
    exact (optionalOf_quiet (memberOf_quiet _ _) output).bind fun output =>
      (optionalOf_quiet (memberOf_quiet _ _) revert).bind fun revert => withModes_quiet v output revert

theorem Call.eval_asksIf (c : Call) : AsksIf (c.asks vars) (c.eval vars) := by
  cases c with
  | direct t tokens named =>
    rw [Call.eval]
    exact t.eval_asksIf.bind fun v => (Expr.evalAll_asksIf tokens).bind fun tokens =>
      (Expr.evalNamed_asksIf named).bind fun named => callValue_asksIf v tokens named
  | method m t tokens named revert =>
    rw [Call.eval]
    exact t.eval_asksIf.bind fun v => (Expr.evalAll_asksIf tokens).bind fun tokens =>
      (Expr.evalNamed_asksIf named).bind fun named =>
        (optionalOf_quiet (memberOf_quiet _ _) revert).asksIf.bind fun revert =>
          callMethod_asksIf v m revert tokens named
  | codes t revert =>
    rw [Call.eval]
    refine t.eval_asksIf.bind_quiet fun v => ?_
    exact (optionalOf_quiet (memberOf_quiet _ _) revert).bind fun revert =>
      (resolutionOf_quiet v revert).bind fun _ => .pure _

end

end Sgr
