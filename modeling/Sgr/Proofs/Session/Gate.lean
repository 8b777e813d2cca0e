import Mathlib
import Sgr.Proofs.Session.Frame

/-!
# Constant text is made only where the settings allow it

Constant text can be asked for by leading sigils, by a method, or by a brush that was made with the
mode, be it at a time when the settings were other ones. Each call asks the settings that are in
force when it is made, so a call gives constant text only if these allow it, and none is refused
while they do. A brush for constant text that is called under settings against it is refused.

## Main definitions

* `World.Allows` — the settings in force allow constant text.
* `GivesAllowed` — an action that gives constant text only where it is allowed.
* `Operation.IsCall` — the operations that call a brush or a family.
* `Session.Gated` — a step that gives constant text and is refused it as the settings say.
* `Value.IsConstantBrush` — a brush whose own output mode is constant text.

## Main statements

* `Session.gated_of_isCall` — what a step that is a call gives.
* `callValue_disabled` — a brush for constant text is refused where the settings are against it.
* `const_gate` — every call of a run, and every brush that is made for constant text.
-/

namespace Sgr

/-! ## What gives constant text -/

/-- The settings in force, active ones or those of the environment, allow constant text. -/
def World.Allows (w : World) : Prop :=
  ∃ s, w.active = .ok s ∧ s.constFormat = true

/-- An action behind which settings are active that allow constant text, if it gives one. -/
def GivesAllowed (x : Action Value) : Prop :=
  ∀ w w' text, x.run.run w = (.ok (.constText text), w') → w'.Says true

section

variable {α : Type} {k : Bool → Action Value}

/-- Whatever comes first, it is the rest of a sequence that gives a value. -/
theorem GivesAllowed.bind {x : Action α} {f : α → Action Value} (hf : ∀ a, GivesAllowed (f a)) :
    GivesAllowed (x >>= f) := by
  intro w w' text h
  obtain ⟨a, w₁, -, h⟩ := exists_of_run_bind h
  exact hf a w₁ w' text h

theorem GivesAllowed.throw (e : Failure) : GivesAllowed (throw e) := by
  rintro w w' text ⟨⟩

/-- What asks gives constant text only if that is the answer, and does not change the settings
afterwards. -/
theorem asking_givesAllowed
    (hstate : ∀ allowed w, w.Says allowed → KeepsAt World.Evolves World.Explains w (k allowed))
    (hdenied : ∀ w w' text, (k false).run.run w ≠ (.ok (.constText text), w')) :
    GivesAllowed (asking k) := by
  intro w w' text h
  obtain ⟨allowed, w₁, hask, h⟩ := exists_of_run_bind h
  have hsaid := says_of_mayBeConstant hask
  have hevolves := (hstate allowed w₁ hsaid).state
  rw [h] at hevolves
  cases allowed with
  | false => exact absurd h (hdenied w₁ w' text)
  | true =>
    obtain ⟨s, hs, hconst⟩ := hsaid
    exact ⟨s, hevolves.context.settings_eq hs, hconst⟩

end

/-- Styling gives constant text as a value if it is constant text. -/
theorem constText_of_styledIn {x : InContext Failure Styled} {w w' : World} {text : String}
    (h : (styledIn x).run.run w = (.ok (.constText text), w')) :
    ∃ c, x.run.run w.toContext = (.ok (.constText text), c) := by
  obtain ⟨r, w₁, hrun, hvalue⟩ := exists_of_run_bind h
  obtain ⟨c, hx, rfl⟩ := Action.exists_of_run_inContext hrun
  cases r with
  | constText s =>
    cases hvalue
    exact ⟨c, hx⟩
  | text s => cases hvalue
  | deferred t args => cases hvalue

/-! ## Calls -/

/-- Styling that gives constant text only where that is allowed. -/
theorem askingToStyle_givesAllowed {style : Store → Bool → InContext Failure Styled}
    (hasks : ∀ store allowed, Asks allowed Failure.errorClass (style store allowed))
    (hdenied : ∀ store c c' text, (style store false).run.run c ≠ (.ok (.constText text), c')) :
    GivesAllowed (askingToStyle style) := by
  refine asking_givesAllowed ?_ fun w w' text h => ?_
  · exact fun allowed w hw => .get_bind (styledIn_keepsAt (hasks w.store allowed) hw)
  · obtain ⟨store, w₁, -, h⟩ := exists_of_run_bind h
    obtain ⟨c, h⟩ := constText_of_styledIn h
    exact hdenied _ _ c text h

theorem callTool_givesAllowed (t : Tool) (tokens : List Value) (named : List (String × Value)) :
    GivesAllowed (callTool t tokens named) := by
  rw [callTool_eq]
  refine .bind fun _ => askingToStyle_givesAllowed (fun _ _ => t.call_asks tokens named) ?_
  exact fun _ _ _ _ h => Bool.false_ne_true (Tool.call_constText h)

theorem callValue_givesAllowed (v : Value) (tokens : List Value) (named : List (String × Value)) :
    GivesAllowed (callValue v tokens named) := by
  rw [callValue_eq]
  refine .bind fun t => .bind fun p => ?_
  unfold callAs
  split
  · exact callTool_givesAllowed _ tokens named
  · refine .bind fun _ =>
      askingToStyle_givesAllowed (fun _ _ => BrushParts.call_asks _ tokens named) ?_
    exact fun _ _ _ _ h => Bool.false_ne_true (BrushParts.call_constText h)
  · exact .bind fun _ => .throw _

theorem Method.callIn_givesAllowed (m : Method) (p : BrushParts) (store : Store)
    (args : MethodArguments) : GivesAllowed (m.callIn p store args) := by
  have hdenied (w w' : World) (text : String) :
      (styledIn (p.style store false ⟨m.output, args.revert.getD p.ownRevert⟩ args.tokens
        args.named)).run.run w ≠ (.ok (.constText text), w') := by
    intro h
    obtain ⟨c, h⟩ := constText_of_styledIn h
    exact Bool.false_ne_true (BrushParts.style_constText h).2
  unfold callIn
  by_cases hm : m = .constFormat
  · rw [if_pos hm]
    refine asking_givesAllowed (fun allowed w hw => ?_) hdenied
    exact styledIn_keepsAt (p.style_asks (fun _ h => h) _ _) hw
  · rw [if_neg hm]
    exact fun w w' text h => absurd h (hdenied w w' text)

theorem callMethod_givesAllowed (v : Value) (m : Method) (revert : Option RevertMode)
    (tokens : List Value) (named : List (String × Value)) :
    GivesAllowed (callMethod v m revert tokens named) := by
  rw [callMethod_eq]
  refine .bind fun p => ?_
  unfold Method.callAs
  split
  · exact .bind fun _ => .bind fun args => m.callIn_givesAllowed _ _ args
  · exact .bind fun _ => .throw _

theorem invoke_givesAllowed (name : String) (tokens : List Value) (named : List (String × Value)) :
    GivesAllowed (invoke name tokens named) :=
  .bind fun _ => .bind fun t => .bind fun _ => callTool_givesAllowed t tokens named

theorem Call.eval_givesAllowed (vars : Variables) (c : Call) : GivesAllowed (c.eval vars) := by
  cases c with
  | direct t tokens named =>
    rw [Call.eval]
    exact .bind fun v => .bind fun tokens => .bind fun named => callValue_givesAllowed v tokens named
  | method m t tokens named revert =>
    rw [Call.eval]
    exact .bind fun v => .bind fun tokens => .bind fun named => .bind fun revert =>
      callMethod_givesAllowed v m revert tokens named
  | codes t revert =>
    rw [Call.eval]
    intro w w' text h
    obtain ⟨v, w₁, -, h⟩ := exists_of_run_bind h
    obtain ⟨r, w₂, -, h⟩ := exists_of_run_bind h
    obtain ⟨r, w₃, -, h⟩ := exists_of_run_bind h
    cases h

/-! ## Steps -/

/-- An operation that calls a brush or a family, in any of the ways there are. -/
def Operation.IsCall : Operation → Prop
  | call _ | invoke .. => True
  | _ => False

variable {vars : Variables} {o : Operation}

theorem Operation.eval_evaluates_of_isCall (h : o.IsCall) : Evaluates (o.eval vars) := by
  cases o with
  | call c =>
    rw [Operation.eval]
    exact c.eval_evaluates vars
  | invoke name tokens named =>
    rw [Operation.eval]
    exact (Expr.evalAll_evaluates vars tokens).bind fun tokens =>
      (Expr.evalNamed_evaluates vars named).bind fun named => invoke_evaluates name tokens named
  | _ => exact h.elim

theorem Operation.eval_givesAllowed_of_isCall (h : o.IsCall) : GivesAllowed (o.eval vars) := by
  cases o with
  | call c =>
    rw [Operation.eval]
    exact c.eval_givesAllowed vars
  | invoke name tokens named =>
    rw [Operation.eval]
    exact .bind fun tokens => .bind fun named => invoke_givesAllowed name tokens named
  | _ => exact h.elim

/-- What the settings say behind an evaluation was in force before it. -/
theorem World.Evolves.allows {w w' : World} (h : w.Evolves w') (hw : w'.Says true) : w.Allows := by
  obtain ⟨s, hs, hconst⟩ := hw
  exact ⟨s, h.context.active_eq ▸ Context.active_of_settings hs, hconst⟩

/-- Where constant text is allowed, no failure of an evaluation refuses it. -/
theorem World.Explains.errorClass_ne {e : Failure} {w w' : World} (h : Explains e w')
    (hevolves : w.Evolves w') (hw : w.Allows) : e.errorClass ≠ .unsupportedMode := by
  intro hclass
  obtain ⟨s, hactive, hon⟩ := hw
  obtain hdenied | ⟨s', hs', hoff⟩ := h hclass
  · cases hdenied
  · rw [← hevolves.context.active_eq, Context.active_of_settings hs'] at hactive
    cases hactive
    exact Bool.false_ne_true (hoff.symm.trans hon)

namespace Session

/-- A step whose constant text is allowed by the settings that were in force before it and are
active behind it, and that is not refused constant text while the settings in force allow it. -/
structure Gated (s : Session) (t : Step) : Prop where
  gives : ∀ text, (s.step t).1 = .ok (.value (.constText text)) →
    s.world.Allows ∧ (s.step t).2.world.Says true
  admits : s.world.Allows → ∀ e, (s.step t).1 = .error e → e.errorClass ≠ .unsupportedMode

theorem gated_of_isCall (s : Session) (t : Step) (h : t.operation.IsCall) : s.Gated t := by
  obtain ⟨hresult, hcontext, -⟩ := s.step_spec t
  have hrun := t.operation.eval_eq_run s.results s.world
  have heval : Evaluates (t.operation.eval s.results) := Operation.eval_evaluates_of_isCall h
  have hkeeps := heval s.world
  constructor
  · intro text htext
    rw [← hresult, htext] at hrun
    have hsaid := Operation.eval_givesAllowed_of_isCall h s.world _ text hrun
    have hevolves := hkeeps.state
    rw [hrun] at hevolves
    refine ⟨hevolves.allows hsaid, ?_⟩
    rw [World.Says, hcontext]
    exact hsaid
  · intro hallows e he
    rw [← hresult, he] at hrun
    have hfailure := hkeeps.failure e (by rw [hrun]; rfl)
    exact hfailure.errorClass_ne hkeeps.state hallows

end Session

/-! ## Brushes for constant text -/

/-- A brush whose own output mode is constant text. -/
def Value.IsConstantBrush (v : Value) : Prop :=
  ∃ p, v.brushParts? = some p ∧ p.output = .output .constFormat

theorem Value.IsConstantBrush.isFixed {v : Value} (h : v.IsConstantBrush) : v.IsFixed := by
  obtain ⟨p, hp, -⟩ := h
  cases v with
  | list items => cases hp
  | dict entries => cases hp
  | _ => trivial

/-- Parts with the mode make such a brush, whether they fit or not. -/
theorem BrushParts.value_isConstantBrush {p : BrushParts} (h : p.output = .output .constFormat) :
    p.value.IsConstantBrush := by
  unfold value
  split
  · next b hb =>
    refine ⟨.ofBrush b, rfl, ?_⟩
    unfold brush? at hb
    split at hb
    · next houtput _ =>
      obtain ⟨kinds, -, rfl⟩ := Option.map_eq_some_iff.mp hb
      exact houtput.symm.trans h
    · cases hb
  · exact ⟨p, rfl, h⟩

/-- So do parts that are given the mode. -/
theorem BrushParts.withModes_isConstantBrush {p : BrushParts} {revert : Option RevertMode}
    {v : Value} (h : p.withModes (some .constFormat) revert = .ok v) : v.IsConstantBrush := by
  rcases hkinds : p.kindValues with e | kinds
  · simp [withModes, hkinds, bind, Except.bind] at h
  · simp only [withModes, hkinds, bind, Except.bind, pure, Except.pure, Except.ok.injEq] at h
    rw [← h]
    exact value_isConstantBrush rfl

/-- A brush for constant text that is told that none is allowed is refused, unless leading sigils
pick other modes. -/
theorem BrushParts.call_disabled {p : BrushParts} (h : p.output = .output .constFormat)
    (store : Store) {tokens : List Value} (named : List (String × Value))
    (htokens : tokens.head? = some (.sigil .constFormat) ∨
      ∀ t ∈ tokens, t.isLeadingSigil = false) :
    ∃ e : Failure, p.call store false tokens named = throw e ∧ e.errorClass = .unsupportedMode := by
  rcases htokens with hfirst | hnone
  · refine ⟨.sigil .constFormatDisabled, ?_, rfl⟩
    rw [call, Leading.read_of_disabled ⟨hfirst, rfl⟩]
    exact run_ext fun _ => rfl
  · refine ⟨.call .constFormatDisabled, ?_, rfl⟩
    rw [call_own (ownModes_of_output h) store false
      (fun t ht => hnone t (List.mem_of_mem_head? ht)), Leading.checkContent_eq_ok.mpr hnone]
    exact run_ext fun _ => rfl

/-! ## Making one -/

/-- A text of sigils that starts with the one for constant text picks that mode, and is accepted only
under settings that allow it. -/
theorem output_of_prefixOf {key : Value} {text : String} {sigils : List Sigil} {c c' : Context}
    {modes : Modes} (htext : key.text? = some text)
    (hsigils : Sigil.tokenize text = .ok (.constFormat :: sigils))
    (h : (prefixOf key).run.run c = (.ok modes, c')) :
    modes.output = .constFormat ∧ ∃ s, c'.settings = some s ∧ s.constFormat = true := by
  rw [prefixOf, htext] at h
  obtain ⟨s, hs, -, hmodes⟩ := settings_of_readPrefix (InContext.run_of_mapError h)
  obtain ⟨preamble, htokens, hallowed, rfl⟩ := Modes.preamble_of_ofPrefix hsigils hmodes
  have hhead : preamble.tokens.head? = some (.sigil .constFormat) := by rw [← htokens]; rfl
  have houtput : preamble.output = some .constFormat := by
    have htake := Leading.take_output_eq_constFormat.mpr hhead
    have hnone : ∀ v ∈ ([] : List Value).head?, v.isLeadingSigil = false := by simp
    rwa [← List.append_nil preamble.tokens, (preamble.take_append hnone).1] at htake
  refine ⟨by simp [Preamble.modes, Preamble.outputMode?, houtput, Sigil.output?], s, hs, ?_⟩
  exact Bool.of_not_eq_false fun hoff => hallowed ⟨hhead, hoff⟩

/-- What is made of a brush by a text of sigils that starts with the one for constant text is a cell
with a brush for constant text. -/
theorem exists_cell_of_bracket {w w' : World} {m key v : Value} {p : BrushParts} {text : String}
    {sigils : List Sigil} (hm : (w.store.contents m).brushParts? = some p)
    (htext : (w.store.view key).text? = some text)
    (hsigils : Sigil.tokenize text = .ok (.constFormat :: sigils))
    (h : (bracket m key).run.run w = (.ok v, w')) :
    w'.Says true ∧
      ∃ id u, v = .cell id ∧ w'.store.get? id = some u ∧ u.IsConstantBrush := by
  obtain ⟨t, w₁, htool, h⟩ := exists_of_run_bind h
  obtain ⟨q, w₂, hparts, h⟩ := exists_of_run_bind h
  cases htool
  cases hparts
  cases hcontents : w.store.contents m with
  | brush b =>
    rw [hcontents] at h
    obtain ⟨b', w₁, htool, hcell⟩ := exists_of_run_bind h
    obtain ⟨key', w₂, hkey, hcontext⟩ := exists_of_run_bind htool
    cases hkey
    obtain ⟨c, hindex, rfl⟩ := Action.exists_of_run_inContext hcontext
    obtain ⟨modes, c', hprefix, hmodes⟩ := exists_of_run_bind hindex
    obtain ⟨houtput, hsaid⟩ := output_of_prefixOf htext hsigils hprefix
    cases hmodes
    cases hcell
    refine ⟨hsaid, _, _, rfl, Store.get?_add_self _ _, .ofBrush _, rfl, ?_⟩
    exact congrArg Value.output houtput
  | makeshift name kinds output revert =>
    obtain ⟨q, hq, -⟩ := Store.view_brushParts hm
    rw [hcontents, hq] at h
    obtain ⟨key', w₁, hkey, hmake⟩ := exists_of_run_bind h
    cases hkey
    obtain ⟨v', w₂, hcontext, hcell⟩ := exists_of_run_bind hmake
    obtain ⟨c, hindex, rfl⟩ := Action.exists_of_run_inContext hcontext
    obtain ⟨modes, c', hprefix, hmodes⟩ := exists_of_run_bind hindex
    obtain ⟨houtput, hsaid⟩ := output_of_prefixOf htext hsigils hprefix
    rcases hmade : q.withModes (some modes.output) (some modes.revert) with e | u
    · rw [hmade] at hmodes
      cases hmodes
    · rw [hmade] at hmodes
      cases hmodes
      cases hcell
      rw [houtput] at hmade
      exact ⟨hsaid, _, _, rfl, Store.get?_add_self _ _,
        BrushParts.withModes_isConstantBrush hmade⟩
  | _ =>
    rw [hcontents] at hm
    cases hm

/-! ## Calling one -/

/-- What asks goes on with what the settings in force say. -/
theorem run_asking {k : Bool → Action Value} {w : World} {s : Settings} (h : w.active = .ok s) :
    ∃ c, (asking k).run.run w = (k s.constFormat).run.run { w with toContext := c } := by
  have hask : ((mayBeConstant none).run.run w.toContext).1 = .ok s.constFormat := by
    rw [run_mayBeConstant, run_activeSettings_fst, h]
    rfl
  rcases hrun : (mayBeConstant none).run.run w.toContext with ⟨r, c⟩
  rw [hrun] at hask
  cases hask
  exact ⟨c, by rw [asking, run_bind_ok (Action.run_inContext_ok hrun)]⟩

/-- Styling that is refused when constant text is not allowed is refused where the settings in force
do not allow it. -/
theorem run_askingToStyle_disabled {style : Store → Bool → InContext Failure Styled} {w : World}
    {s : Settings} {e : Failure} (h : w.active = .ok s) (hoff : s.constFormat = false)
    (hstyle : style w.store false = throw e) :
    ((askingToStyle style).run.run w).1 = .error e := by
  obtain ⟨c, hrun⟩ := run_asking h
  rw [askingToStyle, hrun, hoff, run_bind_ok (run_get _), hstyle]
  rfl

/-- A brush for constant text is refused where the settings in force are against it, unless leading
sigils pick other modes for the call. -/
theorem callValue_disabled {w : World} {id : Nat} {u : Value} {s : Settings}
    (hu : u.IsConstantBrush) (hid : w.store.get? id = some u) (h : w.active = .ok s)
    (hoff : s.constFormat = false) {tokens : List Value}
    (htokens : tokens.head? = some (.sigil .constFormat) ∨
      ∀ t ∈ tokens, t.isLeadingSigil = false)
    {named : List (String × Value)} (hnamed : ∀ a ∈ named, a.1 ≠ "self") :
    ∃ e, ((callValue (.cell id) tokens named).run.run w).1 = .error e ∧
      e.errorClass = .unsupportedMode := by
  have hcontents : w.store.contents (.cell id) = u := by rw [Store.contents, hid, Option.getD_some]
  obtain ⟨p, hp, houtput⟩ := hu
  obtain ⟨q, hq, hqoutput⟩ := Store.view_brushParts (hcontents ▸ hp)
  obtain ⟨e, hcall, hclass⟩ := q.call_disabled (hqoutput _ houtput) w.store named htokens
  have htool : (toolOf? (.cell id)).run.run w = (.ok u.tool?, w) := by rw [← hcontents]; rfl
  have hparts : (partsOf? (.cell id)).run.run w = (.ok (some q), w) := by rw [← hq]; rfl
  refine ⟨e, ?_, hclass⟩
  rw [callValue_eq, run_bind_ok htool, run_bind_ok hparts]
  cases u with
  | brush b =>
    rw [Store.view_of_brush hcontents] at hq
    cases hq
    simp only [callAs, Value.tool?, callTool_eq, refuseNamed_of_not_mem hnamed, pure_bind]
    rw [BrushParts.call_ofBrush] at hcall
    exact run_askingToStyle_disabled h hoff hcall
  | makeshift name kinds output revert =>
    simp only [callAs, Value.tool?, refuseNamed_of_not_mem hnamed, pure_bind]
    exact run_askingToStyle_disabled h hoff hcall
  | _ => cases hp

/-! ## Runs -/

/-- In every run, a call gives constant text only if the settings in force allow it, and is not
refused it while they do. A brush that was made by a text of sigils that starts with the one for
constant text was made where that was allowed; called at any later time at which it is not, it is
refused, unless leading sigils pick other modes for the call. -/
theorem const_gate (s : Session) :
    (∀ ts, s.Along (fun s t => t.operation.IsCall → s.Gated t) ts) ∧
    ∀ (w : World) (m key v : Value) (p : BrushParts) (text : String) (sigils : List Sigil),
      (w.store.contents m).brushParts? = some p → (w.store.view key).text? = some text →
      Sigil.tokenize text = .ok (.constFormat :: sigils) →
      (bracket m key).run.run w = (.ok v, s.world) →
      w.Allows ∧ ∃ id, v = .cell id ∧
        ∀ ts, s.Along (fun s t => t.operation.Spares id s) ts →
        ∀ off, (s.after ts).world.active = .ok off → off.constFormat = false →
        ∀ tokens named, (tokens.head? = some (.sigil .constFormat) ∨
            ∀ t ∈ tokens, t.isLeadingSigil = false) →
          (∀ a ∈ named, a.1 ≠ "self") →
          ∃ e, ((callValue v tokens named).run.run (s.after ts).world).1 = .error e ∧
            e.errorClass = .unsupportedMode := by
  refine ⟨fun ts => Session.along_of_forall fun s t => s.gated_of_isCall t, ?_⟩
  intro w m key v p text sigils hm htext hsigils hmade
  obtain ⟨hsaid, id, u, rfl, hid, hu⟩ := exists_cell_of_bracket hm htext hsigils hmade
  have hevolves := (bracket_evaluates m key w).state
  rw [hmade] at hevolves
  refine ⟨hevolves.allows hsaid, id, rfl, ?_⟩
  intro ts hts off hactive hoff tokens named htokens hnamed
  exact callValue_disabled hu (Session.get?_after hu.isFixed hid hts) hactive hoff htokens hnamed

/-! ### A bold brush -/

/-- The brush for bold text with constant text as its mode. -/
def constantBold : Brush :=
  { name := "bold", kinds := [.style .bold], modes := ⟨.constFormat, .single⟩ }

theorem run_bracket_bold :
    (bracket (.brush { name := "bold", kinds := [.style .bold] }) (.text "#")).run.run
      { settings := some { constFormat := true } } = (.ok (.cell 0),
        { settings := some { constFormat := true }, store := ⟨[.brush constantBold]⟩ }) := by
  rw [bracket, run_bind_ok (run_toolOf? rfl), run_bind_ok (run_partsOf? rfl)]
  simp only [indexTool, bind_assoc]
  rw [run_bind_ok (run_viewValue_text _ _)]
  rfl

/-- It is refused once the settings are against it. -/
theorem const_gate_bold :
    let made : World :=
      { settings := some { constFormat := true }, store := ⟨[.brush constantBold]⟩ }
    let off := Session.after { world := made } [⟨.useSettings false "auto" (.value .nothing), none⟩]
    ∃ e, ((callValue (.cell 0) [.text "a"] []).run.run off.world).1 = .error e ∧
      e.errorClass = .unsupportedMode := by
  intro made off
  have hoff : off.world.active = .ok {} := by
    simp only [off, made]
    cbv
  obtain ⟨-, id, hid, hcall⟩ := (const_gate { world := made }).2 _ _ (.text "#") _ _ "#" []
    rfl (by rw [Store.view_text]; rfl) rfl run_bracket_bold
  cases hid
  have hsteps : Session.Along (fun s t => t.operation.Spares 0 s) { world := made }
      [⟨.useSettings false "auto" (.value .nothing), none⟩] := ⟨trivial, trivial⟩
  have htokens : ∀ t ∈ [Value.text "a"], t.isLeadingSigil = false := by simp [Value.isLeadingSigil]
  exact hcall _ hsteps {} hoff rfl _ [] (.inr htokens) (by simp)

/-- With a leading sigil for another mode it styles as the sigil says. -/
theorem constant_brush_restyled :
    let made : World :=
      { settings := some { constFormat := true }, store := ⟨[.brush constantBold]⟩ }
    let off := Session.after { world := made } [⟨.useSettings false "auto" (.value .nothing), none⟩]
    (bracket (.brush { name := "bold", kinds := [.style .bold] }) (.text "#")).run.run
        { settings := some { constFormat := true } } = (.ok (.cell 0), made) ∧
      off.world.settings = some {} ∧
      ((callValue (.cell 0) [.sigil .string, .text "a"] []).run.run off.world).1 =
        .ok (.text "\x1b[1ma\x1b[22m") := by
  refine ⟨run_bracket_bold, ?_, ?_⟩ <;> cbv

end Sgr
