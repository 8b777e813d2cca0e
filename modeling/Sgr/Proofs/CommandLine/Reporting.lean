import Sgr.Proofs.Brush.Family
import Sgr.Proofs.Color.Refusal
import Sgr.Proofs.CommandLine.Render
import Sgr.Proofs.Template.Surround
import Sgr.Proofs.Template.Texts

/-!
# What the rendering command reports

Where there is no configuration, what the rendering command does depends on its words alone. It
handles every failure of the call that it makes except one: a template may step into a member of an
argument, and a text has none. Such a failure is no mismatch of the template, so it is not turned
into one, and it is not among the failures that the command handles.

## Main definitions

* `Failure.IsTextual` — the failures of a call with texts.
* `RenderOptions.stepsIntoMember` — the content is a template with a step into a member.
* `Unconfigured` — there is neither a default file nor a variable for the settings.

## Main statements

* `templateHasMember_surround` — sequences around a template are no fields.
* `Brush.call_ends`, `shownCall_ends` — how a call with texts fails.
* `commandText_ends` — the same for the call that the command makes.
* `render_reports` — the command prints, reports, or ends with a missing member.
-/

namespace Sgr

/-! ## Templates in a call -/

/-- Plain text around a template adds no fields. -/
theorem templateHasMember_surround {o c : List Char} (ho : o.all Script.isPlain)
    (hc : c.all Script.isPlain) (t : List Char) :
    templateHasMember (o ++ t ++ c) = templateHasMember t := by
  have hchars (cs : List Char) : Script.hasMember specHasMember ⟨cs.map .char, none⟩ = false := by
    simp [Script.hasMember]
  have happend (ps qs : List Piece) (f g : Option FormatFault) :
      Script.hasMember specHasMember ⟨ps ++ qs, f⟩ =
        (Script.hasMember specHasMember ⟨ps, g⟩ || Script.hasMember specHasMember ⟨qs, g⟩) :=
    List.any_append
  rw [templateHasMember, templateHasMember, List.append_assoc, Script.ofChars_append_of_plain ho]
  have hextended := Script.extended_ofChars_append hc t
  generalize Script.ofChars t = a at hextended
  generalize Script.ofChars (t ++ c) = b at hextended
  cases hextended with
  | whole pieces => rw [happend _ _ _ none, hchars, happend _ _ _ none, hchars]; simp
  | broken pieces hf hg => rw [happend _ _ _ none, hchars]; simp [Script.hasMember]

variable {members : Bool} {vs : List Value}

/-- The first of some values is a template with a step into a member. -/
def TemplateHasMember (vs : List Value) : Prop :=
  ∃ v ∈ vs.head?, ∃ t ∈ v.text?, templateHasMember t.toList

namespace CommandLine

/-- The classes of the failures that the commands handle. -/
def handledClasses : List ErrorClass :=
  [.grammar, .unsupportedMode, .colorRange, .contentType, .wrongType, .wrongValue, .missingKey,
    .noFile, .undecodable, .invalidConfig]

theorem isHandled_of_errorClass {f : Failure} {c : ErrorClass} (h : f.errorClass = c)
    (hc : c ∈ handledClasses) : isHandled f := by
  rw [isHandled, h]
  simp only [handledClasses, List.mem_cons, List.not_mem_nil, or_false] at hc
  rcases hc with rfl | rfl | rfl | rfl | rfl | rfl | rfl | rfl | rfl | rfl <;> rfl

end CommandLine

open CommandLine (isHandled_of_errorClass)

/-- The failures of a call with texts. -/
def Failure.IsTextual (members : Bool) (f : Failure) : Prop :=
  CommandLine.isHandled f ∨ members ∧ f.errorClass = .noAttribute

theorem Failure.isTextual_template {e : TemplateError} (h : e.errorClass.IsTextual members) :
    (Failure.template e).IsTextual members := by
  rcases h with h | h | ⟨hmembers, h⟩
  · exact .inl (isHandled_of_errorClass h (by decide))
  · exact .inl (isHandled_of_errorClass h (by decide))
  · exact .inr ⟨hmembers, h⟩

/-- A styled result that shows texts and fails no otherwise. -/
def Styled.IsTextual (members : Bool) : Styled → Prop
  | .deferred t args => args.AreTexts ∧ (templateHasMember t.toList → members)
  | _ => True

/-- Content without a step into a member, unless members may be missing. -/
def Content.MayStep (members : Bool) : Content → Prop
  | .literal _ => True
  | .template v _ => ∀ t ∈ v.text?, templateHasMember t.toList → members

section Requests

variable {content : Content} {kinds : List Kind} {modes : Modes} (store : Store)

/-- Content that is made of texts, between two sequences. -/
theorem assemble_ends (h : content.IsTexts) (hstep : content.MayStep members)
    {opening closing : List Char} (ho : opening.all Script.isPlain)
    (hc : closing.all Script.isPlain) (output : OutputMode) :
    InContext.Ends (Styled.IsTextual members) (fun e => e.failure.IsTextual members)
      (assemble store opening closing content output) := by
  cases content with
  | literal parts =>
    cases output with
    | literal =>
      have hparts : Ends (fun _ => True) (fun _ => True) (literalText (store.viewAll parts)) :=
        .of_forall (fun _ _ => trivial) fun _ _ => trivial
      exact (InContext.Ends.ofExcept hparts fun _ _ => .inl rfl).bind fun _ _ => .pure trivial
    | _ => exact .throw (.inl rfl)
  | template v args =>
    obtain ⟨htemplate, hargs⟩ := h
    obtain ⟨t, ht⟩ := Option.isSome_iff_exists.mp htemplate
    have hmember (full : String)
        (hfull : full = String.ofList opening ++ t ++ String.ofList closing) :
        templateHasMember full.toList → members := by
      rw [hfull, String.toList_append, String.toList_append, String.toList_ofList,
        String.toList_ofList, templateHasMember_surround ho hc]
      exact hstep t ht
    have hrender := renderTemplate_ends hargs (hmember _ rfl)
    have hrequest := hrender.mapError (f := RequestError.template)
      (E := fun e => e.failure.IsTextual members) fun _ => Failure.isTextual_template
    cases output with
    | literal => exact .throw (.inl rfl)
    | format =>
      simp only [assemble, Store.view_of_text? ht, ht]
      exact .pure ⟨hargs, hmember _ rfl⟩
    | string =>
      simp only [assemble, Store.view_of_text? ht, ht, hargs.view]
      exact hrequest.bind fun _ _ => .pure trivial
    | constFormat =>
      simp only [assemble, Store.view_of_text? ht, ht, hargs.view]
      refine InContext.Ends.bind (P := fun _ => True) ?_ fun _ _ => .pure trivial
      unfold formatConstant
      split
      · exact .throw (.inl rfl)
      · dsimp only [Value.text?]
        split
        · exact .throw (.inl rfl)
        · exact hrequest

/-- A request for content that is made of texts. -/
theorem render_ends (h : content.IsTexts) (hstep : content.MayStep members) :
    InContext.Ends (Styled.IsTextual members) (Failure.IsTextual members)
      ((Request.render store ⟨kinds, modes, content⟩).mapError RequestError.failure) := by
  have hkinds : Ends (fun _ => True) (fun e : KindError => e.errorClass = .wrongValue)
      (Resolution.ofKinds? kinds modes.revert) := by
    unfold Resolution.ofKinds?
    exact .refuse rfl trivial
  refine InContext.Ends.mapError (D := fun e => e.failure.IsTextual members) ?_ fun _ he => he
  refine (InContext.Ends.ofExcept hkinds fun e he => ?_).bind fun r _ =>
    assemble_ends store h hstep (plain_sgr r.set) (plain_sgr r.reset) _
  exact .inl (isHandled_of_errorClass (f := .kind e) he (by decide))

end Requests

namespace Brush

variable {b : Brush} {constFormat : Bool} (store : Store)

/-- Styling texts. Only modes that need a template step into members. -/
theorem style_ends (h : AllTexts vs) (modes : Modes)
    (hstep : modes.output.needsTemplate → TemplateHasMember vs → members) :
    InContext.Ends (Styled.IsTextual members) (Failure.IsTextual members)
      (b.style store constFormat modes vs []) := by
  have hcontent : Ends (fun c => c.IsTexts ∧ c.MayStep members) (fun e => e.errorClass = .grammar)
      (Content.ofTokens modes.output vs []) := by
    by_cases hneeds : modes.output.needsTemplate
    · rcases vs with _ | ⟨v, vs⟩
      · have htokens : Content.ofTokens modes.output [] [] = .error .noTemplate := if_pos hneeds
        rw [htokens]
        rfl
      · obtain ⟨hv, hvs⟩ := List.forall_mem_cons.mp h
        have htokens : Content.ofTokens modes.output (v :: vs) [] = .ok (.template v ⟨vs, []⟩) :=
          (if_pos hneeds).trans (if_pos hv)
        rw [htokens]
        exact ⟨⟨hv, hvs, rfl⟩, fun t ht hmember => hstep hneeds ⟨v, rfl, t, ht, hmember⟩⟩
    · have htokens : Content.ofTokens modes.output vs [] = .ok (.literal vs) := if_neg hneeds
      rw [htokens]
      exact ⟨h, trivial⟩
  have hrest : InContext.Ends (Styled.IsTextual members) (Failure.IsTextual members) (do
      let c ← InContext.ofExcept .call (Content.ofTokens modes.output vs [])
      (Request.render store ⟨b.kinds, modes, c⟩).mapError RequestError.failure) :=
    (InContext.Ends.ofExcept hcontent fun e he =>
      .inl (isHandled_of_errorClass (f := .call e) he (by decide))).bind fun c hc =>
        render_ends store hc.1 hc.2
  unfold style
  split
  · exact InContext.Ends.bind (P := fun _ => False) (.throw (.inl rfl)) fun _ h => h.elim
  · exact hrest

/-- A call with texts. The modes are those that its leading sigils name, or its own. -/
theorem call_ends (h : AllTexts vs)
    (hstep : ∀ l, Leading.read constFormat vs = .ok l →
      (if l.content.length = vs.length then b.modes else l.modes).output.needsTemplate →
        TemplateHasMember l.content → members) :
    InContext.Ends (Styled.IsTextual members) (Failure.IsTextual members)
      (b.call store constFormat vs []) := by
  have hread : Ends (fun l => Leading.read constFormat vs = .ok l)
      (fun e : SigilError => e.errorClass = .grammar ∨ e.errorClass = .unsupportedMode)
      (Leading.read constFormat vs) := by
    refine .of_forall (fun _ hl => hl) fun e _ => ?_
    cases e <;> simp [SigilError.errorClass]
  have hleading : InContext.Ends (fun l => Leading.read constFormat vs = .ok l)
      (Failure.IsTextual members) (InContext.ofExcept .sigil (Leading.read constFormat vs)) := by
    refine .ofExcept hread fun e he => .inl ?_
    rcases he with he | he
    · exact isHandled_of_errorClass (f := .sigil e) he (by decide)
    · exact isHandled_of_errorClass (f := .sigil e) he (by decide)
  exact hleading.bind fun l hl => style_ends store (content_of_read h hl) _ (hstep l hl)

end Brush

/-! ## Texts of calls -/

section Shown

variable {w : World} {m : Value} {b : Brush} {s : Settings}

/-- The text of a styled result that shows texts. -/
theorem shown_ends {r : Styled} (h : r.IsTextual members) (w : World) :
    Ends (fun _ => True) (Failure.IsTextual members)
      ((do renderValue (← styledValue r) : Action String).run.run w).1 := by
  cases r with
  | text t =>
    have hrun : (do renderValue (← styledValue (.text t)) : Action String).run.run w = (.ok t, w) :=
      renderValue_text t w
    rw [hrun]
    trivial
  | constText t =>
    have hrun : (do renderValue (← styledValue (.constText t)) : Action String).run.run w =
        (.ok t, w) :=
      renderValue_constText t w
    rw [hrun]
    trivial
  | deferred full args =>
    obtain ⟨hargs, hstep⟩ := h
    have hcell : (styledValue (.deferred full args)).run.run w =
      (.ok (.cell w.store.cells.length),
        { w with store := (w.store.add (Styled.deferred full args).value).2 }) := rfl
    rw [run_bind_ok hcell, renderValue_deferred (Store.get?_add_self _ _), hargs.view,
      Action.run_inContext]
    exact (renderTemplate_ends hargs hstep _).mapError fun _ => Failure.isTextual_template

/-- The text of a call with texts, given how the call ends. -/
theorem shownCall_ends (hm : w.store.contents m = .brush b) (hs : w.settings = some s)
    (hcall : InContext.Ends (Styled.IsTextual members) (Failure.IsTextual members)
      (b.call w.store s.constFormat vs [])) :
    Ends (fun _ => True) (Failure.IsTextual members) ((shownCall m vs).run.run w).1 := by
  have hrun : (shownCall m vs).run.run w =
      (styledIn (b.call w.store s.constFormat vs []) >>= renderValue).run.run w := by
    rw [shownCall, run_bind, run_bind, run_callValue hm hs vs (by simp)]
  have hends := hcall w.toContext
  have hstyled := Action.run_inContext id (b.call w.store s.constFormat vs []) w
  rw [hrun, styledIn, bind_assoc]
  rcases hresult : ((b.call w.store s.constFormat vs []).run.run w.toContext).1 with f | r
  all_goals rw [hresult] at hends hstyled
  · rw [run_bind_error hstyled]
    exact hends
  · rw [run_bind_ok hstyled]
    exact shown_ends hends _

end Shown

/-! ## Sigils and content in a call -/

/-- What a preamble leaves of sigils in front of texts. -/
theorem exists_sigils_of_append {sigils ts : List Sigil} {content : List String} {rest : List Value}
    (h : sigils.map .sigil ++ content.map .text = ts.map .sigil ++ rest) :
    ∃ more, sigils = ts ++ more ∧ rest = more.map .sigil ++ content.map .text := by
  induction ts generalizing sigils with
  | nil => exact ⟨sigils, rfl, h.symm⟩
  | cons t ts ih =>
    rcases sigils with _ | ⟨s, sigils⟩
    · cases content <;> cases h
    · obtain ⟨hs, htail⟩ := List.cons.inj h
      obtain ⟨more, rfl, hrest⟩ := ih htail
      exact ⟨more, by rw [Value.sigil.inj hs]; rfl, hrest⟩

/-- A sigil is no template with a field. -/
theorem templateHasMember_sigil (s : Sigil) : templateHasMember s.text.toList = false := by
  have hplain : s.text.toList.all Script.isPlain := by cases s <;> decide
  have hempty : templateHasMember [] = false := by
    rw [templateHasMember, Script.ofChars]
    rfl
  have h := templateHasMember_surround hplain (c := []) rfl []
  rw [List.append_nil, List.append_nil] at h
  exact h.trans hempty

/-- With sigils and texts, a template that steps into a member is the first of the texts, behind an
output sigil. -/
theorem steps_of_read {constFormat : Bool} {sigils : List Sigil} {content : List String}
    {l : Leading}
    (hread : Leading.read constFormat (sigils.map .sigil ++ content.map .text) = .ok l)
    (hneeds : l.modes.output.needsTemplate) (hmember : TemplateHasMember l.content) :
    sigils.head?.any Sigil.isOutput ∧ content.head?.any (templateHasMember ·.toList) := by
  obtain ⟨-, p, htokens, -, houtput, -⟩ := Leading.read_eq_ok.mp hread
  obtain ⟨more, hsigils, hcontent⟩ := exists_sigils_of_append htokens
  constructor
  · rcases hp : p.output with _ | s
    · rw [Leading.modes, houtput, Preamble.outputMode?, hp] at hneeds
      cases hneeds
    · have hhead : sigils.head? = some s := by
        rw [hsigils, Preamble.sigils, hp]
        rfl
      rw [hhead]
      exact p.isOutput s hp
  · obtain ⟨v, hv, t, ht, hstep⟩ := hmember
    rw [hcontent] at hv
    rcases more with _ | ⟨s, more⟩
    · rcases content with _ | ⟨first, content⟩
      · cases hv
      · cases hv
        cases ht
        exact hstep
    · cases hv
      cases ht
      rw [templateHasMember_sigil] at hstep
      cases hstep

/-- A brush that has a name of its own is one kind without modes. -/
theorem single_of_lookup {name : String} {b : Brush} (h : Tool.lookup name = .ok (.brush b)) :
    (∃ k, b.kinds = [k]) ∧ b.modes = {} := by
  have hall : ∀ t ∈ Tool.all, ∀ b, t = .brush b → (∃ k, b.kinds = [k]) ∧ b.modes = {} := by
    unfold Tool.all Tool.basics
    simp only [List.forall_mem_append, List.forall_mem_map]
    refine ⟨⟨⟨⟨⟨?_, ?_⟩, ?_⟩, ?_⟩, ?_⟩, ?_⟩ <;> rintro _ - _ ⟨⟩ <;> exact ⟨⟨_, rfl⟩, rfl⟩
  unfold Tool.lookup at h
  split at h
  · next t ht =>
    cases h
    exact hall _ (List.mem_of_find?_eq_some ht) b rfl
  · cases h

namespace CommandLine

/-- Whether the content is a template with a step into a member. Without an output sigil there is no
template. -/
def RenderOptions.stepsIntoMember (o : RenderOptions) : Bool :=
  match Sigil.tokenize o.sigils with
  | .ok sigils =>
    sigils.head?.any Sigil.isOutput && o.content.head?.any (templateHasMember ·.toList)
  | .error _ => false

theorem isHandled_sigil (e : SigilError) : isHandled (.sigil e) := by
  cases e <;> rfl

/-- Errors of a family are handled unless they come from a value that has no text. -/
theorem isHandled_family {e : FamilyError} (h : e.errorClass ≠ .noAttribute) :
    isHandled (.family e) := by
  cases e with
  | color e =>
    cases e with
    | brightness what bright =>
      have hclass : (Failure.family (.color (.brightness what bright))).errorClass =
          if bright.unhashable?.isSome then .wrongType else .missingKey := rfl
      split at hclass
      · exact isHandled_of_errorClass hclass (by decide)
      · exact isHandled_of_errorClass hclass (by decide)
    | unshown fault =>
      cases fault with
      | nameless => exact absurd rfl h
      | unwritable => rfl
    | _ => rfl
  | _ => rfl

/-- A value that a word of the command line can be read as. -/
def IsReadParam (v : Value) : Prop :=
  (∃ i, v = .int i) ∨ (∃ x, v = .float x) ∨ ∃ s, v = .text s

theorem isReadParam_readParam (s : String) : IsReadParam (readParam s) := by
  unfold readParam
  split
  · exact .inl ⟨_, rfl⟩
  · split
    · exact .inr (.inl ⟨_, rfl⟩)
    · exact .inr (.inr ⟨s, rfl⟩)

theorem not_fails_packedColor {f : ColorFamily} {v : Value} (hv : IsReadParam v) :
    ¬Color.Fails (f.packedColor v) .noAttribute := by
  have hpacked (i : Int) : ¬Color.Fails (Color.ofPackedInt i f.plane) .noAttribute := by
    simp [Color.fails_ofPackedInt]
  obtain ⟨i, rfl⟩ | ⟨x, rfl⟩ | ⟨s, rfl⟩ := hv
  · exact hpacked i
  · intro h
    have hrefused : Color.Refused (.float x) .noAttribute :=
      (Color.fails_ofValue (p := f.plane) (v := .float x) (fun _ _ _ => nofun)).mp h
    cases hrefused
  · have htext : f.packedColor (.text s) = Color.ofHexValue (.text s) s f.plane := rfl
    rw [htext, Color.ofHexValue]
    split
    · exact hpacked _
    · simp [ColorError.errorClass]

/-- With words as its parameters, a family refuses none of them for having no text. -/
theorem errorClass_ne_of_color {f : ColorFamily} {params : List Value}
    (hparams : ∀ v ∈ params, IsReadParam v) {e : FamilyError} (h : f.color params = .error e) :
    e.errorClass ≠ .noAttribute := by
  have hcolor {r : Except ColorError Color} (hr : ¬Color.Fails r .noAttribute)
      (h : r.mapError .color = .error e) : e.errorClass ≠ .noAttribute := by
    cases r with
    | ok => cases h
    | error e' =>
      cases h
      exact fun hclass => hr ⟨e', rfl, hclass⟩
  unfold ColorFamily.color at h
  split at h
  · split at h
    · exact hcolor (not_fails_packedColor (hparams _ List.mem_cons_self)) h
    · next a b c =>
      refine hcolor (fun hfails => Color.not_sequenceRefused [a, b, c] ?_) h
      exact (Color.fails_ofValue (v := .tuple [a, b, c]) (fun _ _ _ => nofun)).mp hfails
    · cases h
      simp [FamilyError.errorClass]
  · split at h
    · refine hcolor (fun hfails => ?_) h
      exact Color.not_byteRefused _ ((Color.fails_byteOf _ _).mp (Color.fails_map.mp hfails))
    · cases h
      simp [FamilyError.errorClass]

theorem errorClass_ne_of_bind {f : ColorFamily} {params : List Value}
    (hparams : ∀ v ∈ params, IsReadParam v) {e : FamilyError} (h : f.bind params = .error e) :
    e.errorClass ≠ .noAttribute := by
  refine errorClass_ne_of_color hparams (f := f) ?_
  unfold ColorFamily.bind at h
  rcases hcolor : f.color params with e' | c
  · rw [hcolor] at h
    cases h
    rfl
  · rw [hcolor] at h
    cases h

/-- The text of a call as the command makes it. -/
theorem commandText_ends (o : RenderOptions) {w w' : World} {s : Settings}
    (hs : w.settings = some s) {r : Except Failure String}
    (hrun : (commandText o.style o.params o.sigils o.content).run.run w = (r, w')) :
    Ends (fun _ => True) (Failure.IsTextual o.stepsIntoMember) r := by
  have hshown {b : Brush} (hmodes : b.modes = {}) :
      Ends (fun _ => True) (Failure.IsTextual o.stepsIntoMember)
        ((renderText b o.sigils o.content).run.run w).1 := by
    rw [renderText_eq, shownText]
    rcases hsigils : Sigil.tokenize o.sigils with e | sigils
    · exact .inl (isHandled_sigil e)
    · have hm : w.store.contents (.brush b) = .brush b := rfl
      refine shownCall_ends hm hs (b.call_ends _ (allTexts_call sigils o.content) ?_)
      intro l hread hneeds hmember
      split at hneeds
      · rw [hmodes] at hneeds
        cases hneeds
      · obtain ⟨houtput, htemplate⟩ := steps_of_read hread hneeds hmember
        rw [RenderOptions.stepsIntoMember, hsigils]
        exact Bool.and_eq_true_iff.mpr ⟨houtput, htemplate⟩
  have hresult : ((commandText o.style o.params o.sigils o.content).run.run w).1 = r := by rw [hrun]
  rw [← hresult]
  unfold commandText
  rcases hlookup : Tool.lookup o.style with e | b | f
  · have he : e = .unknownName o.style := by
      unfold Tool.lookup at hlookup
      split at hlookup <;> cases hlookup
      rfl
    rw [he]
    exact .inl rfl
  · exact hshown (single_of_lookup hlookup).2
  · rcases hbind : f.bind (o.params.map readParam) with e | b
    · have hparams : bindParams f o.params = throw (.family e) := by
        rw [bindParams, hbind]
        rfl
      simp only [Action.lift, pure_bind, hparams]
      have hparams : ∀ v ∈ o.params.map readParam, IsReadParam v := by
        simp [isReadParam_readParam]
      exact .inl (isHandled_family (errorClass_ne_of_bind hparams hbind))
    · have hparams : bindParams f o.params = pure b := by
        rw [bindParams, hbind]
        rfl
      simp only [Action.lift, pure_bind, hparams]
      exact hshown (ColorFamily.modes_of_bind hbind)

/-! ## Without a configuration -/

/-- The variables that settings are read from. -/
def settingVariables : List String :=
  ["SGRFMT_CONST_FORMAT", "SGRFMT_COLOR", "SGRFMT_LOG_LEVEL"]

/-- There is no configuration: no default file, and no variable. -/
structure Unconfigured (w : World) : Prop where
  files : ∀ name ∈ configNames, w.files.find? (w.files.inDirectory name) = .ok none
  env : ∀ name ∈ settingVariables, w.env.get? name = none

/-- The variables that there are give the default settings. -/
theorem Unconfigured.ofEnv {w : World} (h : Unconfigured w) : Settings.ofEnv w.env = .ok {} := by
  have hconst := h.env "SGRFMT_CONST_FORMAT" (by decide)
  have hcolor := h.env "SGRFMT_COLOR" (by decide)
  have hlevel := h.env "SGRFMT_LOG_LEVEL" (by decide)
  rw [Settings.ofEnv, hconst, hcolor, hlevel]
  rfl

/-- Then the settings are the default ones. -/
theorem Unconfigured.settings {w : World} (h : Unconfigured w) :
    ((chosenSettings none).run.run w).1 = .ok {} := by
  have hdefault (names : List String)
      (hnames : ∀ name ∈ names, w.files.find? (w.files.inDirectory name) = .ok none) :
      ((findDefault names).run.run w).1 = .ok none := by
    induction names with
    | nil => rfl
    | cons name names ih =>
      obtain ⟨hname, hnames⟩ := List.forall_mem_cons.mp hnames
      have hexists := run_existsAt (w.files.inDirectory name) w
      rw [hname] at hexists
      rw [findDefault, run_bind_ok (run_get w), run_bind_ok hexists]
      exact ih hnames
  have hfind : ((findConfig none).run.run w).1 = .ok none := hdefault configNames h.files
  rw [result_chosenSettings, hfind]
  have hplace : ((settingsFromEnv).run.run w).1 = .ok {} := by rw [run_settingsFromEnv, h.ofEnv]; rfl
  exact hplace

section Reporting

variable {o : RenderOptions} {w : World} {args : List String}

/-- Parameters that do not fit are reported, and nothing is called. -/
theorem exists_message_of_not_paramsFit (h : ¬o.ParamsFit) (s : Settings) :
    ∃ message, renderUnder o s = fail message := by
  unfold renderUnder brushOf
  rcases hlookup : Tool.lookup o.style with e | b | f
  · refine absurd ⟨fun f hf => ?_, fun b hb => ?_⟩ h
    · rw [hlookup] at hf
      cases hf
    · rw [hlookup] at hb
      cases hb
  · have hparams : o.params.isEmpty = false := Bool.eq_false_iff.mpr fun hempty =>
      h (RenderOptions.paramsFit_of_brush hlookup (List.isEmpty_iff.mp hempty))
    refine ⟨o.style ++ " takes no color parameters", ?_⟩
    simp only [Action.lift, handle_pure, pure_bind, hparams, Bool.false_eq_true, if_false,
      fail_bind]
  · have hparams : o.params.isEmpty := by
      refine Bool.not_eq_false _ |>.mp fun hsome => h ⟨fun g _ => ?_, fun b hb => ?_⟩
      · exact fun hnil => Bool.eq_false_iff.mp hsome (List.isEmpty_iff.mpr hnil)
      · rw [hlookup] at hb
        cases hb
    refine ⟨f.name ++ " needs color parameters (--param)", ?_⟩
    simp only [Action.lift, handle_pure, pure_bind, hparams, if_true, fail_bind]

/-- Under silent settings they are reported. -/
theorem run_render_unfit (hargs : Command.ofWords args = .ok (.render o))
    (hfresh : w.HasFreshStream) (keeps : Bool) (hfits : ¬o.ParamsFit) {s : Settings}
    (hsettings : ((chosenSettings (o.file.filter (· ≠ ""))).run.run w).1 = .ok s)
    (hlevel : o.level.getD s.level = .none) :
    ∃ message, (run args keeps w).1 = .reported "" keeps message := by
  have hinstall := run_installSettings w keeps o.file o.level
  rw [hsettings] at hinstall
  obtain ⟨log, hinstall, hlog⟩ := hinstall
  obtain rfl := hlog hlevel
  let c : Console := { consoleOf w keeps with
    world := { (consoleOf w keeps).world with settings := some s } }
  have hquiet : c.IsQuiet := ⟨⟨rfl, rfl⟩, hfresh⟩
  obtain ⟨message, hfail⟩ := exists_message_of_not_paramsFit hfits s
  have hrun : run args keeps w = ended c.stream ((fail message).run.run c) := by
    rw [run_eq_ended hargs rfl, runCommand, run_render, run_bind_ok (run_handle_ok hinstall), hfail]
    rfl
  refine ⟨message, ?_⟩
  rw [hrun, (ended_fail hquiet message).1]
  rfl

/-- There is nothing in an empty world. -/
theorem unconfigured_default : Unconfigured {} where
  files name hname := by
    simp only [configNames, List.mem_cons, List.not_mem_nil, or_false] at hname
    rcases hname with rfl | rfl <;> cbv
  env _ _ := rfl

theorem lookup_bold : Tool.lookup "bold" = .ok (.brush (.ofStyle .bold)) :=
  lookup_of_find? (by decide +kernel)

end Reporting

end CommandLine

end Sgr
