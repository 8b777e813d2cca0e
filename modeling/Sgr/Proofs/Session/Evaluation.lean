import Sgr.Proofs.Brush.Asking
import Sgr.Proofs.Styling
import Sgr.Session.Evaluate

/-!
# What evaluating an expression does

An expression makes cells and asks for the settings; what there is already it leaves as it is. It is
refused constant text only if the settings that are active then are against it.

## Main definitions

* `World.Evolves` — how the world changes while an expression is evaluated.
* `Evaluates` — an action that does no more than that.
* `askingToStyle` — styling that asks first whether constant text is allowed.

## Main statements

* `callValue_evaluates`, `callMethod_evaluates`, `invoke_evaluates` — styling calls.
* `Expr.eval_evaluates`, `ToolExpr.eval_evaluates`, `Call.eval_evaluates` — expressions.
-/

namespace Sgr

/-! ## The world behind an evaluation -/

/-- The world before and behind an evaluation: cells are added, and the settings are asked for. -/
structure World.Evolves (w w' : World) : Prop where
  context : w.toContext.Settles w'.toContext
  files : w'.files = w.files
  cells : w.store.cells <+: w'.store.cells

instance : IsPreorder World World.Evolves where
  refl w := ⟨refl_of Context.Settles w.toContext, rfl, List.prefix_rfl⟩
  trans _ _ _ h h' := ⟨h.context.trans h'.context, h'.files.trans h.files, h.cells.trans h'.cells⟩

/-- A failure refuses constant text only if the settings are against it. -/
def World.Explains (e : Failure) (w : World) : Prop :=
  Refuses true Failure.errorClass e w.toContext

@[grind ←] theorem World.explains_of_ne {e : Failure} (h : e.errorClass ≠ .unsupportedMode)
    (w : World) : Explains e w :=
  .of_ne h w.toContext

/-- An action that makes cells and asks for the settings, and does no more. -/
abbrev Evaluates {α : Type} (x : Action α) : Prop :=
  Keeps World.Evolves World.Explains x

namespace Action

variable {ε α : Type} {f : ε → Failure}

theorem lift_evaluates (h : ∀ e, (f e).errorClass ≠ .unsupportedMode)
    (r : Except ε α) : Evaluates (lift f r) := by
  cases r with
  | error e => exact .throw (World.explains_of_ne (h e))
  | ok a => exact .pure a

/-- What asks in its context does no more in the world. -/
theorem inContext_keepsAt {x : InContext ε α} {w : World}
    (h : KeepsAt Context.Settles (Refuses true fun e => (f e).errorClass) w.toContext x) :
    KeepsAt World.Evolves World.Explains w (inContext f x) := by
  constructor
  · rw [run_inContext]
    exact ⟨h.state, rfl, List.prefix_rfl⟩
  · intro e he
    rw [run_inContext] at he ⊢
    rcases hx : (x.run.run w.toContext).1 with e' | a
    · rw [hx] at he
      cases he
      exact h.failure e' hx
    · rw [hx] at he
      cases he

theorem inContext_evaluates {x : InContext ε α} (h : Asks true (fun e => (f e).errorClass) x) :
    Evaluates (inContext f x) :=
  fun w => inContext_keepsAt (h.keeps w.toContext)

@[grind ←] theorem record_evaluates (level : LogLevel) (logger message : String) :
    Evaluates (record level logger message) :=
  .modify fun _ => ⟨.of_eq rfl rfl, rfl, List.prefix_rfl⟩

end Action

section Results

variable {α : Type}

@[grind ←] theorem lift_kind_evaluates (r : Except KindError α) :
    Evaluates (Action.lift .kind r) :=
  Action.lift_evaluates KindError.errorClass_ne r

@[grind ←] theorem lift_color_evaluates (r : Except ColorError α) :
    Evaluates (Action.lift .color r) :=
  Action.lift_evaluates ColorError.errorClass_ne r

@[grind ←] theorem lift_family_evaluates (r : Except FamilyError α) :
    Evaluates (Action.lift .family r) :=
  Action.lift_evaluates FamilyError.errorClass_ne r

@[grind ←] theorem lift_access_evaluates (r : Except AccessError α) :
    Evaluates (Action.lift .access r) :=
  Action.lift_evaluates AccessError.errorClass_ne r

@[grind ←] theorem lift_binding_evaluates (r : Except BindingError α) :
    Evaluates (Action.lift .binding r) :=
  Action.lift_evaluates (fun _ => by simp [Failure.errorClass]) r

/-- A result that admits constant text where it is allowed. -/
theorem lift_evaluates_of_admits {ε : Type} {f : ε → Failure} {r : Except ε α}
    (h : Admits true (fun e => (f e).errorClass) r) : Evaluates (Action.lift f r) := by
  cases r with
  | error e => exact .throw fun w he => absurd (h e rfl he) (by simp)
  | ok a => exact .pure a

end Results

attribute [local grind =] Failure.errorClass

/-! ## Cells -/

namespace Store

mutual

/-- Sharing a value only adds cells. -/
theorem share_cells (s : Store) (v : Value) : s.cells <+: (s.share v).2.cells := by
  cases v with
  | list items =>
    rw [share]
    exact (shareAll_cells s items).trans (List.prefix_append _ _)
  | tuple items =>
    rw [share]
    exact shareAll_cells s items
  | dict entries =>
    rw [share]
    exact (shareEntries_cells s entries).trans (List.prefix_append _ _)
  | deferred =>
    rw [share]
    exact List.prefix_append _ _
  | _ =>
    simp only [share]
    split
    · exact List.prefix_append _ _
    · exact List.prefix_rfl

theorem shareAll_cells (s : Store) (vs : List Value) :
    s.cells <+: (share.shareAll s vs).2.cells := by
  cases vs with
  | nil => exact List.prefix_rfl
  | cons v vs =>
    rw [share.shareAll]
    exact (share_cells s v).trans (shareAll_cells _ vs)

theorem shareEntries_cells (s : Store) (es : List (Value × Value)) :
    s.cells <+: (share.shareEntries s es).2.cells := by
  cases es with
  | nil => exact List.prefix_rfl
  | cons e es =>
    rw [share.shareEntries]
    exact (share_cells s e.1).trans ((share_cells _ e.2).trans (shareEntries_cells _ es))

end

end Store

@[grind ←] theorem newCell_evaluates (v : Value) : Evaluates (newCell v) :=
  .modifyGet fun w => ⟨refl_of Context.Settles w.toContext, rfl, List.prefix_append _ _⟩

@[grind ←] theorem shareValue_evaluates (v : Value) : Evaluates (shareValue v) :=
  .modifyGet fun w => ⟨refl_of Context.Settles w.toContext, rfl, w.store.share_cells v⟩

@[grind ←] theorem viewValue_evaluates (v : Value) : Evaluates (viewValue v) := by
  unfold viewValue
  grind

@[grind ←] theorem styledValue_evaluates (r : Styled) : Evaluates (styledValue r) := by
  unfold styledValue
  grind

/-! ## Calls -/

@[grind ←] theorem refuseNamed_evaluates (function parameter : String)
    (named : List (String × Value)) : Evaluates (refuseNamed function parameter named) := by
  unfold refuseNamed
  grind

@[grind ←] theorem toolOf?_evaluates (v : Value) : Evaluates (toolOf? v) := by
  unfold toolOf?
  grind

@[grind ←] theorem partsOf?_evaluates (v : Value) : Evaluates (partsOf? v) := by
  unfold partsOf?
  grind

/-- The active settings say whether constant text is allowed. -/
def World.Says (w : World) (allowed : Bool) : Prop :=
  ∃ s, w.settings = some s ∧ s.constFormat = allowed

/-- Asks whether constant text is allowed and goes on with the answer. -/
def asking (k : Bool → Action Value) : Action Value := do
  k (← Action.inContext .settings (mayBeConstant none))

/-- Behind the question whether constant text is allowed, the settings are active that say so. -/
theorem says_of_mayBeConstant {w w' : World} {allowed : Bool}
    (h : (Action.inContext .settings (mayBeConstant none)).run.run w = (.ok allowed, w')) :
    w'.Says allowed := by
  rw [Action.run_inContext] at h
  rcases hrun : (mayBeConstant none).run.run w.toContext with ⟨e | b, c⟩
  · rw [hrun] at h
    cases h
  · rw [hrun] at h
    cases h
    exact constFormat_of_mayBeConstant hrun

theorem asking_evaluates {k : Bool → Action Value}
    (hk : ∀ allowed w, w.Says allowed → KeepsAt World.Evolves World.Explains w (k allowed)) :
    Evaluates (asking k) := by
  have ask : Evaluates (Action.inContext .settings (mayBeConstant none)) :=
    Action.inContext_evaluates (mayBeConstant_asks none)
  exact fun w => (ask w).bind fun allowed w' hrun => hk allowed w' (says_of_mayBeConstant hrun)

/-- Styling is refused constant text only by the settings, if it goes by what they say. -/
theorem styledIn_keepsAt {x : InContext Failure Styled} {w : World} {allowed : Bool}
    (h : Asks allowed Failure.errorClass x) (hw : w.Says allowed) :
    KeepsAt World.Evolves World.Explains w (styledIn x) :=
  (Action.inContext_keepsAt (h.of_settings hw)).bind fun r w' _ =>
    styledValue_evaluates r w'

theorem styledIn_evaluates {x : InContext Failure Styled} (h : Asks true Failure.errorClass x) :
    Evaluates (styledIn x) :=
  (Action.inContext_evaluates h).bind styledValue_evaluates

/-- Asks, and styles with what the cells hold then. -/
def askingToStyle (style : Store → Bool → InContext Failure Styled) : Action Value :=
  asking fun allowed => do styledIn (style (← get).store allowed)

theorem askingToStyle_evaluates {style : Store → Bool → InContext Failure Styled}
    (h : ∀ store allowed, Asks allowed Failure.errorClass (style store allowed)) :
    Evaluates (askingToStyle style) := by
  exact asking_evaluates fun allowed w hw => .get_bind (styledIn_keepsAt (h w.store allowed) hw)

theorem callTool_eq (t : Tool) (tokens : List Value) (named : List (String × Value)) :
    callTool t tokens named = (do
      refuseNamed (t.typeName ++ ".__call__") "self" named
      askingToStyle fun store allowed => t.call store allowed tokens named) := rfl

@[grind ←] theorem callTool_evaluates (t : Tool) (tokens : List Value)
    (named : List (String × Value)) : Evaluates (callTool t tokens named) := by
  rw [callTool_eq]
  exact (refuseNamed_evaluates _ _ named).bind fun _ =>
    askingToStyle_evaluates fun _ _ => t.call_asks tokens named

/-- The rest of a call of a value, once it is known to be a tool, a brush of parts, or neither. -/
def callAs (v : Value) (tokens : List Value) (named : List (String × Value)) (t : Option Tool)
    (p : Option BrushParts) : Action Value :=
  match t, p with
  | some t, _ => callTool t tokens named
  | none, some p => do
    refuseNamed "StyleMacro.__call__" "self" named
    askingToStyle fun store allowed => p.call store allowed tokens named
  | none, none => do throw (.call (.notCallable (← viewValue v).typeName))

theorem callValue_eq (v : Value) (tokens : List Value) (named : List (String × Value)) :
    callValue v tokens named = (do
      let t ← toolOf? v
      let p ← partsOf? v
      callAs v tokens named t p) := rfl

theorem callAs_evaluates (v : Value) (tokens : List Value) (named : List (String × Value))
    (t : Option Tool) (p : Option BrushParts) : Evaluates (callAs v tokens named t p) := by
  unfold callAs
  split
  · exact callTool_evaluates _ tokens named
  · exact (refuseNamed_evaluates _ _ named).bind fun _ =>
      askingToStyle_evaluates fun _ _ => BrushParts.call_asks _ tokens named
  · grind [CallError.errorClass]

@[grind ←] theorem callValue_evaluates (v : Value) (tokens : List Value)
    (named : List (String × Value)) : Evaluates (callValue v tokens named) := by
  rw [callValue_eq]
  exact (toolOf?_evaluates v).bind fun t => (partsOf?_evaluates v).bind fun p =>
    callAs_evaluates v tokens named t p

theorem lookup_evaluates (name : String) : Evaluates (Action.lift .call (Tool.lookup name)) := by
  unfold Tool.lookup
  split
  · exact .pure _
  · exact .throw (World.explains_of_ne (by simp [Failure.errorClass, CallError.errorClass]))

@[grind ←] theorem invoke_evaluates (name : String) (tokens : List Value)
    (named : List (String × Value)) : Evaluates (invoke name tokens named) := by
  have lookup := lookup_evaluates name
  unfold invoke
  grind

@[grind ←] theorem lacks_evaluates {α : Type} (v : Value) (name : String) :
    Evaluates (lacks v name : Action α) := by
  unfold lacks
  grind [CallError.errorClass]

/-- The rest of a call by a method, once its arguments are bound. -/
def Method.callIn (m : Method) (p : BrushParts) (store : Store) (args : MethodArguments) :
    Action Value :=
  let style (enabled : Bool) : Action Value :=
    styledIn (p.style store enabled ⟨m.output, args.revert.getD p.ownRevert⟩ args.tokens args.named)
  if m = .constFormat then asking style else style false

/-- The named arguments of a method: the revert mode is looked up. -/
def methodNamed (store : Store) (named : List (String × Value)) : List (String × Value) :=
  named.map fun (k, v) => if k = "revert" then (k, store.view v) else (k, v)

/-- The rest of a call by a method, once the value is known to be a brush or not. -/
def Method.callAs (m : Method) (v : Value) (revert : Option RevertMode) (tokens : List Value)
    (named : List (String × Value)) (p : Option BrushParts) : Action Value :=
  match p with
  | some p => do
    let store := (← get).store
    let args ← Action.lift .binding (bindArguments m revert tokens (methodNamed store named))
    m.callIn p store args
  | none => lacks v m.name

theorem callMethod_eq (v : Value) (m : Method) (revert : Option RevertMode) (tokens : List Value)
    (named : List (String × Value)) :
    callMethod v m revert tokens named = (do
      let p ← partsOf? v
      m.callAs v revert tokens named p) := rfl

/-- A method asks only for constant text, and only constant text can be refused. -/
theorem Method.callIn_evaluates (m : Method) (p : BrushParts) (store : Store)
    (args : MethodArguments) : Evaluates (m.callIn p store args) := by
  unfold callIn
  by_cases hm : m = .constFormat
  · rw [if_pos hm]
    exact asking_evaluates fun allowed w hw =>
      styledIn_keepsAt (p.style_asks (fun _ h => h) _ _) hw
  · rw [if_neg hm]
    have hne : m.output ≠ .constFormat := by cases m <;> simp_all [output]
    exact styledIn_evaluates (p.style_asks (fun h => absurd h hne) _ _)

theorem Method.callAs_evaluates (m : Method) (v : Value) (revert : Option RevertMode)
    (tokens : List Value) (named : List (String × Value)) (p : Option BrushParts) :
    Evaluates (m.callAs v revert tokens named p) := by
  have call := m.callIn_evaluates
  unfold callAs
  grind

@[grind ←] theorem callMethod_evaluates (v : Value) (m : Method) (revert : Option RevertMode)
    (tokens : List Value) (named : List (String × Value)) :
    Evaluates (callMethod v m revert tokens named) := by
  rw [callMethod_eq]
  exact (partsOf?_evaluates v).bind (m.callAs_evaluates v revert tokens named)

/-! ## Brushes from other brushes -/

@[grind ←] theorem indexTool_evaluates (t : Tool) (key : Value) : Evaluates (indexTool t key) := by
  have index (key : Value) : Evaluates (Action.inContext .bracket (t.index key)) :=
    Action.inContext_evaluates (index_asks t key)
  unfold indexTool
  grind

/-- The rest of a key in brackets, once it is known what it stands behind. -/
def bracketAs (v key : Value) (t : Option Tool) (p : Option BrushParts) : Action Value :=
  match t, p with
  | some t, _ => do newCell (.brush (← indexTool t key))
  | none, some p => do newCell (← Action.inContext .bracket (p.index (← viewValue key)))
  | none, none => do Action.lift .access ((← get).store.item v key)

theorem bracket_eq (v key : Value) :
    bracket v key = (do
      let t ← toolOf? v
      let p ← partsOf? v
      bracketAs v key t p) := rfl

theorem bracketAs_evaluates (v key : Value) (t : Option Tool) (p : Option BrushParts) :
    Evaluates (bracketAs v key t p) := by
  have parts (p : BrushParts) (key : Value) : Evaluates (Action.inContext .bracket (p.index key)) :=
    Action.inContext_evaluates (p.index_asks key)
  unfold bracketAs
  grind

/-- A key in brackets. -/
theorem bracket_evaluates (v key : Value) : Evaluates (bracket v key) := by
  rw [bracket_eq]
  exact (toolOf?_evaluates v).bind fun t => (partsOf?_evaluates v).bind fun p =>
    bracketAs_evaluates v key t p

theorem bindValue_evaluates (v : Value) (params : List Value) : Evaluates (bindValue v params) := by
  unfold bindValue
  grind

theorem withModes_evaluates (v : Value) (output : Option OutputMode) (revert : Option RevertMode) :
    Evaluates (withModes v output revert) := by
  have parts (p : BrushParts) : Evaluates (Action.lift .bracket (p.withModes output revert)) :=
    lift_evaluates_of_admits (p.withModes_admits output revert)
  unfold withModes
  grind

@[grind ←] theorem colorOf_evaluates (v : Value) (params : List Value) :
    Evaluates (colorOf v params) := by
  unfold colorOf
  grind

theorem resolutionOf_evaluates (v : Value) (revert : Option RevertMode) :
    Evaluates (resolutionOf v revert) := by
  have parts (p : BrushParts) : Evaluates (Action.lift id (p.resolve revert)) :=
    lift_evaluates_of_admits (p.resolve_admits revert)
  unfold resolutionOf
  grind

@[grind ←] theorem parsePair_evaluates (text : String) : Evaluates (parsePair text) := by
  unfold parsePair
  grind

theorem paint_evaluates (args : List Value) : Evaluates (paint args) := by
  have color (v : Value) (p : Plane) : Evaluates (optionalColor v p) := by
    unfold optionalColor
    grind
  have colors (fg bg : Value) : Evaluates (paintColors fg bg) := by
    unfold paintColors
    grind
  have noPaint : (Failure.call .noPaint).errorClass = .grammar := rfl
  unfold paint
  grind

/-! ## Expressions -/

section Names

variable {α β : Type}

theorem find_evaluates (vars : Variables) (name : String) : Evaluates (vars.find name) := by
  unfold Variables.find
  grind [NameError.errorClass]

@[grind ←] theorem memberOf_evaluates (typeName : String) (find : String → Option α) (v : Value) :
    Evaluates (memberOf typeName find v) := by
  unfold memberOf
  grind [NameError.errorClass]

@[grind ←] theorem planeOf_evaluates (v : Value) : Evaluates (planeOf v) :=
  memberOf_evaluates _ _ v

@[grind ←] theorem outputOf_evaluates (v : Value) : Evaluates (outputOf v) :=
  memberOf_evaluates _ _ v

@[grind ←] theorem revertModeOf_evaluates (v : Value) : Evaluates (revertModeOf v) :=
  memberOf_evaluates _ _ v

@[grind ←] theorem optionalOf_evaluates {read : α → Action β} (h : ∀ a, Evaluates (read a))
    (o : Option α) : Evaluates (optionalOf read o) := by
  unfold optionalOf
  grind

@[grind ←] theorem checkKey_evaluates (v : Value) : Evaluates (checkKey v) := by
  unfold checkKey
  grind

end Names

attribute [local grind ←] find_evaluates bracket_evaluates bindValue_evaluates withModes_evaluates
  resolutionOf_evaluates paint_evaluates lookup_evaluates

variable (vars : Variables)

mutual

/-- Evaluating an expression makes cells and asks for the settings, and does no more. -/
theorem Expr.eval_evaluates (e : Expr) : Evaluates (e.eval vars) := by
  cases e with
  | list items =>
    have := Expr.evalAll_evaluates items
    rw [Expr.eval]
    grind
  | tuple items =>
    have := Expr.evalAll_evaluates items
    rw [Expr.eval]
    grind
  | set items =>
    have := Expr.evalAll_evaluates items
    rw [Expr.eval]
    grind
  | dict entries =>
    have := Expr.evalEntries_evaluates [] entries
    rw [Expr.eval]
    grind
  | basic base bright plane =>
    have := base.eval_evaluates
    have := bright.eval_evaluates
    rw [Expr.eval]
    grind
  | indexed index plane =>
    have := index.eval_evaluates
    rw [Expr.eval]
    grind
  | rgb red green blue plane =>
    have := red.eval_evaluates
    have := green.eval_evaluates
    have := blue.eval_evaluates
    rw [Expr.eval]
    grind
  | deferred template args named =>
    have := template.eval_evaluates
    have := Expr.evalAll_evaluates args
    have := Expr.evalNamed_evaluates named
    rw [Expr.eval]
    grind
  | call c =>
    rw [Expr.eval]
    exact c.eval_evaluates
  | _ =>
    rw [Expr.eval]
    grind

theorem Expr.evalAll_evaluates (es : List Expr) : Evaluates (Expr.evalAll vars es) := by
  cases es with
  | nil => exact .pure []
  | cons e es =>
    have := e.eval_evaluates
    have := Expr.evalAll_evaluates es
    rw [Expr.evalAll]
    grind

theorem Expr.evalEntries_evaluates (done : List (Value × Value)) (es : List (Expr × Expr)) :
    Evaluates (Expr.evalEntries vars done es) := by
  cases es with
  | nil => exact .pure done
  | cons e es =>
    have := e.1.eval_evaluates
    have := e.2.eval_evaluates
    have := fun done => Expr.evalEntries_evaluates done es
    rw [Expr.evalEntries]
    grind

theorem Expr.evalNamed_evaluates (es : List (String × Expr)) :
    Evaluates (Expr.evalNamed vars es) := by
  cases es with
  | nil => exact .pure []
  | cons e es =>
    have := e.2.eval_evaluates
    have := Expr.evalNamed_evaluates es
    rw [Expr.evalNamed]
    grind

/-- So does evaluating what is called. -/
theorem ToolExpr.eval_evaluates (t : ToolExpr) : Evaluates (t.eval vars) := by
  cases t with
  | named name =>
    rw [ToolExpr.eval]
    grind
  | paint args =>
    have := Expr.evalAll_evaluates args
    rw [ToolExpr.eval]
    grind
  | «variable» name =>
    rw [ToolExpr.eval]
    grind
  | index t e =>
    have := t.eval_evaluates
    have := e.eval_evaluates
    rw [ToolExpr.eval]
    grind
  | bind t params =>
    have := t.eval_evaluates
    have := Expr.evalAll_evaluates params
    rw [ToolExpr.eval]
    grind
  | modes t output revert =>
    have := t.eval_evaluates
    rw [ToolExpr.eval]
    grind

/-- And so does a call. -/
theorem Call.eval_evaluates (c : Call) : Evaluates (c.eval vars) := by
  cases c with
  | direct t tokens named =>
    have := t.eval_evaluates
    have := Expr.evalAll_evaluates tokens
    have := Expr.evalNamed_evaluates named
    rw [Call.eval]
    grind
  | method m t tokens named revert =>
    have := t.eval_evaluates
    have := Expr.evalAll_evaluates tokens
    have := Expr.evalNamed_evaluates named
    rw [Call.eval]
    grind
  | codes t revert =>
    have := t.eval_evaluates
    rw [Call.eval]
    grind

end

end Sgr
