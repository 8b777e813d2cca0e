import Sgr.Proofs.CommandLine.Frame
import Sgr.Proofs.Session.Run

/-!
# What operations leave as it is

A list gets items and a mapping gets entries, but what else a cell holds changes only by an
assignment to one of its members. Everything else that an operation does, whether it succeeds or
fails, and whatever command line it runs, leaves the cell as it is.

## Main definitions

* `Value.IsFixed` — no list and no mapping.
* `World.HoldsOn` — the worlds before and behind work that leaves a cell as it is.
* `Operation.Spares` — an operation that assigns to no member of a cell.

## Main statements

* `Operation.run_keepsAt` — an operation leaves a cell as it is.
* `Session.get?_after` — so do the steps of a session.
-/

namespace Sgr

/-- A value that is no list and no mapping. -/
def Value.IsFixed : Value → Prop
  | list _ | dict _ => False
  | _ => True

theorem Value.not_isFixed_list (items : List Value) : ¬(list items).IsFixed :=
  not_false

theorem Value.not_isFixed_dict (entries : List (Value × Value)) : ¬(dict entries).IsFixed :=
  not_false

/-- A cell that holds something fixed goes on to hold it. -/
def World.HoldsOn (id : Nat) (w w' : World) : Prop :=
  ∀ v, v.IsFixed → w.store.get? id = some v → w'.store.get? id = some v

variable {id : Nat}

instance : IsPreorder World (World.HoldsOn id) where
  refl _ _ _ h := h
  trans _ _ _ h h' v hv hget := h' v hv (h v hv hget)

@[grind ←] theorem World.holdsOn_of_store {w w' : World} (h : w'.store = w.store) :
    w.HoldsOn id w' := by
  intro v _ hget
  rw [h, hget]

theorem World.holdsOn_of_cells {w w' : World} (h : w.store.cells <+: w'.store.cells) :
    w.HoldsOn id w' := by
  intro v _ hget
  obtain ⟨new, hnew⟩ := h
  have hlt := (List.getElem?_eq_some_iff.mp hget).1
  rw [Store.get?, ← hnew, List.getElem?_append_left hlt]
  exact hget

instance : World.Framed (World.HoldsOn id) where
  of_evolves h := World.holdsOn_of_cells h.cells

/-- Work that leaves a cell as it is. -/
abbrev Holds {α : Type} (id : Nat) (x : Action α) : Prop :=
  Keeps (World.HoldsOn id) AnyFailure x

/-! ## Evaluation -/

@[grind ←] theorem newCell_holds (v : Value) : Holds id (newCell v) :=
  (newCell_evaluates v).keeps

@[grind ←] theorem shareValue_holds (v : Value) : Holds id (shareValue v) :=
  (shareValue_evaluates v).keeps

@[grind ←] theorem viewValue_holds (v : Value) : Holds id (viewValue v) :=
  (viewValue_evaluates v).keeps

@[grind ←] theorem styledValue_holds (r : Styled) : Holds id (styledValue r) :=
  (styledValue_evaluates r).keeps

@[grind ←] theorem callTool_holds (t : Tool) (tokens : List Value)
    (named : List (String × Value)) : Holds id (callTool t tokens named) :=
  (callTool_evaluates t tokens named).keeps

@[grind ←] theorem invoke_holds (name : String) (tokens : List Value)
    (named : List (String × Value)) : Holds id (invoke name tokens named) :=
  (invoke_evaluates name tokens named).keeps

@[grind ←] theorem indexTool_holds (t : Tool) (key : Value) : Holds id (indexTool t key) :=
  (indexTool_evaluates t key).keeps

@[grind ←] theorem paint_holds (args : List Value) : Holds id (paint args) :=
  (paint_evaluates args).keeps

@[grind ←] theorem parsePair_holds (text : String) : Holds id (parsePair text) :=
  (parsePair_evaluates text).keeps

@[grind ←] theorem planeOf_holds (v : Value) : Holds id (planeOf v) :=
  (planeOf_evaluates v).keeps

@[grind ←] theorem outputOf_holds (v : Value) : Holds id (outputOf v) :=
  (outputOf_evaluates v).keeps

@[grind ←] theorem revertModeOf_holds (v : Value) : Holds id (revertModeOf v) :=
  (revertModeOf_evaluates v).keeps

section Expressions

variable (vars : Variables)

@[grind ←] theorem Expr.eval_holds (e : Expr) : Holds id (e.eval vars) :=
  (e.eval_evaluates vars).keeps

@[grind ←] theorem Expr.evalAll_holds (es : List Expr) : Holds id (Expr.evalAll vars es) :=
  (Expr.evalAll_evaluates vars es).keeps

@[grind ←] theorem Expr.evalNamed_holds (es : List (String × Expr)) :
    Holds id (Expr.evalNamed vars es) :=
  (Expr.evalNamed_evaluates vars es).keeps

@[grind ←] theorem ToolExpr.eval_holds (t : ToolExpr) : Holds id (t.eval vars) :=
  (t.eval_evaluates vars).keeps

@[grind ←] theorem Call.eval_holds (c : Call) : Holds id (c.eval vars) :=
  (c.eval_evaluates vars).keeps

end Expressions

@[grind ←] theorem record_holds (level : LogLevel) (logger message : String) :
    Holds id (Action.record level logger message) :=
  (Action.record_evaluates level logger message).keeps

/-! ## Parts of operations -/

namespace Action

variable {ε α : Type} {f : ε → Failure}

@[grind ←] theorem inContext_holds (x : InContext ε α) : Holds id (inContext f x) := by
  unfold inContext
  grind

end Action

@[grind ←] theorem renderValue_holds (v : Value) : Holds id (renderValue v) :=
  (renderValue_evaluates v).keeps

@[grind ←] theorem settingsFromEnv_holds : Holds id settingsFromEnv :=
  settingsFromEnv_consults.keeps

@[grind ←] theorem useSettings_holds (s : Settings) : Holds id (useSettings s) := by
  unfold useSettings
  grind

@[grind ←] theorem resetSettings_holds : Holds id resetSettings := by
  unfold resetSettings
  grind

@[grind ←] theorem findConfig_holds (path : Option String) : Holds id (findConfig path) :=
  (findConfig_consults path).keeps

@[grind ←] theorem loadConfig_holds (p : Place) : Holds id (loadConfig p) :=
  (loadConfig_consults p).keeps

@[grind ←] theorem resolvePlaceholders_holds (v : Value) : Holds id (resolvePlaceholders v) :=
  (resolvePlaceholders_consults v).keeps

@[grind ←] theorem settingsOf_holds (config : Value) : Holds id (settingsOf config) :=
  (settingsOf_consults config).keeps

@[grind ←] theorem loadResolved_holds (p : Place) : Holds id (loadResolved p) :=
  (loadResolved_consults p).keeps

@[grind ←] theorem loadSettings_holds (p : Place) : Holds id (loadSettings p) :=
  (loadSettings_consults p).keeps

/-! ## The palette -/

namespace Palette

@[grind ←] theorem settings_holds : Holds id settings := by
  unfold settings
  grind

@[grind ←] theorem textOf_holds (t : Tool) (tokens : List Value) : Holds id (textOf t tokens) := by
  unfold textOf
  grind

@[grind ←] theorem basicLine_holds (base : Fin 8) : Holds id (basicLine base) := by
  unfold basicLine
  grind

@[grind ←] theorem cubeLine_holds (first : Nat) : Holds id (cubeLine first) := by
  unfold cubeLine
  grind

@[grind ←] theorem gradientLine_holds : Holds id gradientLine := by
  unfold gradientLine
  grind

@[grind ←] theorem samples_holds (constFormat : Bool) : Holds id (samples constFormat) := by
  unfold samples
  grind

/-- The palette is shown without a change to the cells there are. -/
@[grind ←] theorem display_holds : Holds id display := by
  have heading (s : String) : Holds id (heading s) := by
    unfold Palette.heading
    grind
  refine settings_holds.bind fun settings => (heading _).bind fun basics => ?_
  refine (Keeps.mapM _ basicLine_holds).bind fun basicLines => (heading _).bind fun cube => ?_
  grind

end Palette

/-! ## The command line -/

namespace CommandLine

/-- A part of a command that leaves a cell as it is. -/
abbrev RunHolds {α : Type} (id : Nat) (x : Run α) : Prop :=
  RunKeeps (World.HoldsOn id) x

@[grind ←] theorem errorMessage_holds (s : String) : Holds id (errorMessage s) :=
  (errorMessage_evaluates s).keeps

@[grind ←] theorem warningMessage_holds (s : String) : Holds id (warningMessage s) :=
  (warningMessage_evaluates s).keeps

@[grind ←] theorem successMessage_holds (s : String) : Holds id (successMessage s) :=
  (successMessage_evaluates s).keeps

@[grind ←] theorem hintMessage_holds (s : String) : Holds id (hintMessage s) :=
  (hintMessage_evaluates s).keeps

@[grind ←] theorem handle_skip_holds {α : Type} {a : Action α} (h : Holds id a) :
    RunHolds id (handle (fun _ => pure ()) a) :=
  handle_keeps (fun _ => .pure ()) h

@[grind ←] theorem setUpLog_holds (level : LogLevel) (stream : Nat) :
    Holds id (setUpLog level stream) := by
  unfold setUpLog
  grind

@[grind ←] theorem install_holds (level : Option LogLevel) (stream : Nat) (place : Option Place)
    (s : Settings) : Holds id (install level stream place s) := by
  unfold install
  grind

@[grind ←] theorem refuseMissing_holds (path : Option String) : Holds id (refuseMissing path) := by
  unfold refuseMissing
  split <;> grind

@[grind ←] theorem settingsAt_holds (place : Option Place) : Holds id (settingsAt place) := by
  unfold settingsAt
  split <;> grind

@[grind ←] theorem installSettings_holds (file : Option String) (level : Option LogLevel)
    (stream : Nat) : Holds id (installSettings file level stream) := by
  rw [installSettings_eq, withSettings]
  grind

@[grind ←] theorem bindParams_holds (f : ColorFamily) (params : List String) :
    Holds id (bindParams f params) := by
  unfold bindParams
  grind

@[grind ←] theorem render_holds (o : RenderOptions) : RunHolds id (render o) := by
  unfold render
  grind

@[grind ←] theorem codes_holds (o : CodesOptions) : RunHolds id (codes o) := by
  unfold codes prefixModes
  refine (handle_skip_holds (Action.lift_keeps _ _)).bind fun t => ?_
  cases t with
  | family f =>
    dsimp only
    split <;> grind
  | brush b => grind

@[grind ←] theorem listLine_holds (t : Tool) (preview : Bool) : Holds id (listLine t preview) := by
  unfold listLine
  grind

@[grind ←] theorem list_holds (preview : Bool) : RunHolds id (list preview) := by
  unfold list
  grind

@[grind ←] theorem validate_holds (file : Option String) (strict : Bool) :
    RunHolds id (validate file strict) := by
  unfold validate
  refine (perform_keeps (findConfig_holds file)).bind fun place => ?_
  cases place with
  | none => exact fail_keeps _
  | some place =>
    refine (echo_keeps _ _).bind fun _ => (attempt_keeps (loadResolved_holds place)).bind fun r => ?_
    cases r with
    | error f => grind
    | ok config =>
      dsimp only
      split <;> grind

/-- A command leaves the cells that there are as they are. -/
theorem runWords_holds (args : List String) : RunHolds id (runWords args) := by
  unfold runWords runCommand
  grind

theorem run_holdsOn (args : List String) (keepsControl : Bool) (w : World) :
    w.HoldsOn id (run args keepsControl w).2 := by
  let c : Console := { world := w.newStream.2, stream := w.newStream.1, keepsControl }
  have hworld : (run args keepsControl w).2 = ((runWords args).run.run c).2.world := by
    unfold run Run.result
    dsimp only
    rcases (runWords args).run.run c with ⟨(_ | _) | _, _⟩ <;> rfl
  rw [hworld]
  exact (runWords_holds args c).state

end CommandLine

/-! ## Operations -/

theorem edit_keepsAt {change : Store → Except EditError Store} {w : World}
    (h : ∀ store, change w.store = .ok store → w.HoldsOn id { w with store }) :
    KeepsAt (World.HoldsOn id) AnyFailure w (edit change) := by
  have hlift : (Action.lift Failure.edit (change w.store)).run.run w =
      ((change w.store).mapError .edit, w) := by
    cases change w.store <;> rfl
  refine .get_bind ((Action.lift_keeps _ _ w).bind fun store w' hrun => ?_)
  rw [hlift] at hrun
  rcases hstore : change w.store with e | store'
  · rw [hstore] at hrun
    cases hrun
  · rw [hstore] at hrun
    cases hrun
    exact ⟨h store hstore, fun _ _ => trivial⟩

/-- Other contents of a cell that holds something that is not fixed, or of another cell. -/
theorem holdsOn_update {w : World} {other : Nat} {v : Value}
    (h : other = id → ∀ u, w.store.get? id = some u → ¬u.IsFixed) :
    w.HoldsOn id { w with store := w.store.update other v } := by
  intro u hu hget
  by_cases hid : other = id
  · exact absurd hu (h hid u hget)
  · rw [← hget]
    exact w.store.get?_update_of_ne v hid

/-- What names a list or a mapping names no cell that holds something fixed. -/
theorem not_isFixed_of_contents {w : World} {v : Value} (h : w.store.contents (.cell id) = v)
    (hv : ¬v.IsFixed) : ∀ u, w.store.get? id = some u → ¬u.IsFixed := by
  intro u hu
  obtain rfl : u = v := by simpa [Store.contents, hu] using h
  exact hv

theorem append_holdsOn {w : World} {store : Store} {target item : Value}
    (h : w.store.append target item = .ok store) : w.HoldsOn id { w with store } := by
  unfold Store.append at h
  split at h
  · next hcontents =>
    cases h
    exact holdsOn_update fun hid => not_isFixed_of_contents (hid ▸ hcontents) (Value.not_isFixed_list _)
  · cases h

theorem put_holdsOn {w : World} {store : Store} {target key item : Value}
    (h : w.store.put target key item = .ok store) : w.HoldsOn id { w with store } := by
  unfold Store.put at h
  split at h
  · next hcontents =>
    split at h
    · cases h
    · cases h
      exact holdsOn_update fun hid => not_isFixed_of_contents (hid ▸ hcontents) (Value.not_isFixed_dict _)
  · next hcontents =>
    split at h
    · cases h
    · split at h
      · cases h
      · split at h
        · cases h
          exact holdsOn_update fun hid => not_isFixed_of_contents (hid ▸ hcontents) (Value.not_isFixed_list _)
        · cases h
  · cases h

theorem setMember_holdsOn {w : World} {store : Store} {target item : Value} {name : String}
    (htarget : target ≠ .cell id) (h : w.store.setMember target name item = .ok store) :
    w.HoldsOn id { w with store } := by
  have other {n : Nat} (hn : target = .cell n) : n ≠ id := fun hid => htarget (hid ▸ hn)
  unfold Store.setMember at h
  split at h
  · cases h
  · split at h
    · cases h
      exact holdsOn_update fun hid => absurd hid (other rfl)
    · split at h
      · cases h
        exact holdsOn_update fun hid => absurd hid (other rfl)
      · cases h
        exact World.holdsOn_of_store rfl
    · cases h
      exact World.holdsOn_of_store rfl

@[grind ←] theorem prefixModes_holds (text : String) (constFormat : Option Bool) :
    Holds id (prefixModes text constFormat) :=
  Action.inContext_holds _

@[grind ←] theorem colorOf_holds (v : Value) (params : List Value) : Holds id (colorOf v params) :=
  (colorOf_evaluates v params).keeps

@[grind ←] theorem kindOf_holds (v : Value) : Holds id (kindOf v) :=
  Action.lift_keeps _ _

@[grind ←] theorem groupOf_holds (v : Value) : Holds id (groupOf v) := by
  unfold groupOf
  grind

@[grind ←] theorem readLog_holds : Holds id readLog := by
  unfold readLog
  grind

@[grind ←] theorem setVariable_holds (name : String) (v : Value) : Holds id (setVariable name v) := by
  unfold setVariable
  grind

@[grind ←] theorem configureLog_holds (level : Int) (layout : String) :
    Holds id (configureLog level layout) := by
  unfold configureLog
  grind

@[grind ←] theorem fillTemplate_holds (template : Value) (args : Arguments) :
    Holds id (fillTemplate template args) := by
  unfold fillTemplate
  grind

@[grind ←] theorem styled_holds (r : InContext RequestError Styled) : Holds id (styled r) := by
  unfold styled
  grind

@[grind ←] theorem messageText_holds (kind : MessageKind) (s : String) :
    Holds id (messageText kind s) := by
  unfold messageText
  grind

section

variable (vars : Variables)

@[grind ←] theorem viewed_holds (e : Expr) : Holds id (viewed vars e) := by
  unfold viewed
  grind

@[grind ←] theorem viewedAll_holds (es : List Expr) : Holds id (viewedAll vars es) := by
  unfold viewedAll
  grind

@[grind ←] theorem argumentsOf_holds (args : List Expr) (named : List (String × Expr)) :
    Holds id (argumentsOf vars args named) := by
  unfold argumentsOf
  grind

@[grind ←] theorem ContentExpr.eval_holds (c : ContentExpr) : Holds id (c.eval vars) := by
  cases c with
  | literal parts =>
    unfold ContentExpr.eval
    grind
  | template text args named =>
    unfold ContentExpr.eval
    grind

end

@[grind ←] theorem runCommandLine_holds (args : List String) (keepsControl : Bool) :
    Holds id (runCommandLine args keepsControl) :=
  .modifyGet fun w => CommandLine.run_holdsOn args keepsControl w

/-- An operation that assigns to no member of a cell in a session. -/
def Operation.Spares (id : Nat) (s : Session) : Operation → Prop
  | setMember target _ _ => ((target.eval s.results).run.run s.world).1 ≠ .ok (.cell id)
  | _ => True

/-- An operation leaves as it is what a cell holds, unless that is a list or a mapping or the
operation assigns to a member. -/
theorem Operation.eval_keepsAt (s : Session) (o : Operation) (h : o.Spares id s) :
    KeepsAt (World.HoldsOn id) AnyFailure s.world (o.eval s.results) := by
  cases o with
  | append target item =>
    have change (target item : Value) : Holds id (edit (·.append target item)) :=
      fun _ => edit_keepsAt fun _ => append_holdsOn
    have run : Holds id ((Operation.append target item).eval s.results) :=
      (target.eval_holds _).bind fun target => (item.eval_holds _).bind fun item =>
        (change target item).bind fun _ => .pure target
    exact run s.world
  | put target key item =>
    have change (target key item : Value) : Holds id (edit (·.put target key item)) :=
      fun _ => edit_keepsAt fun _ => put_holdsOn
    have run : Holds id ((Operation.put target key item).eval s.results) :=
      (target.eval_holds _).bind fun target => (key.eval_holds _).bind fun key =>
        (item.eval_holds _).bind fun item => (change target key item).bind fun _ => .pure target
    exact run s.world
  | setMember target name item =>
    refine (target.eval_holds s.results s.world).bind fun v w hrun => ?_
    have hv : v ≠ .cell id := fun hv => h (by rw [hrun, hv])
    refine (item.eval_holds s.results w).bind fun u w' _ => ?_
    have change : KeepsAt (World.HoldsOn id) AnyFailure w' (edit (·.setMember v name u)) :=
      edit_keepsAt fun _ => setMember_holdsOn hv
    exact change.bind fun _ w'' _ => .pure w'' _
  | _ =>
    refine Keeps.keepsAt ?_ s.world
    rw [Operation.eval]
    grind

/-- Running an operation does to a cell what evaluating it does. -/
theorem Operation.run_keepsAt (s : Session) (o : Operation) (h : o.Spares id s) :
    KeepsAt (World.HoldsOn id) AnyFailure s.world (o.run s.results) := by
  have general : KeepsAt (World.HoldsOn id) AnyFailure s.world
      (do return Answer.value (← o.eval s.results)) :=
    (o.eval_keepsAt s h).bind fun _ w _ => .pure w _
  cases o with
  | commandLine args keepsControl =>
    exact (runCommandLine_holds args keepsControl s.world).bind fun _ w _ => .pure w _
  | _ => exact general

/-! ## Sessions -/

namespace Session

theorem holdsOn_step (s : Session) (t : Step) (h : t.operation.Spares id s) :
    s.world.HoldsOn id (s.step t).2.world :=
  trans_of (World.HoldsOn id) (t.operation.run_keepsAt s h).state
    (World.holdsOn_of_cells (s.step_spec t).2.2)

/-- Steps that assign to no member of a cell leave it as it is. -/
theorem get?_after {s : Session} {ts : List Step} {v : Value} (hv : v.IsFixed)
    (hget : s.world.store.get? id = some v)
    (h : s.Along (fun s t => t.operation.Spares id s) ts) :
    (s.after ts).world.store.get? id = some v :=
  after_invariant (I := fun s => s.world.store.get? id = some v)
    (fun s t hs ht => holdsOn_step s t ht v hv hs) hget h

end Session

end Sgr
