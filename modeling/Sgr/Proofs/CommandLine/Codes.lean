import Sgr.Proofs.Brush.Family
import Sgr.Proofs.CommandLine.Reporting
import Sgr.Proofs.CommandLine.Validate
import Sgr.Proofs.Sigil.Text

/-!
# Showing the parameters of a style

The command that shows parameters finds the brush of a style, reads sigils, which have to name modes
and nothing else, and writes what the kinds of the brush resolve to. Its lines have no control
sequences, so they are written alike to every output.

## Main definitions

* `Preamble.Leads` — sigils that a call allows in front of content.
* `boundBrush` — the brush of a style and its parameters.
* `codesText` — what is shown of a resolution.

## Main statements

* `Modes.ofPrefix_eq_ok_iff_leads`, `Preamble.exists_leads_of_read` — the sigils that are taken by
  themselves, and those that are taken in front of content.
* `codes_eq` — what the command does with the brush.
* `run_codes_shown`, `run_codes_stopped` — its outcome, with a brush and modes and without.
-/

namespace Sgr

/-! ## Sigils in front of the content -/

/-- The end of parameters is the only sigil that may stand in content. -/
theorem Sigil.isLeading_eq_false {s : Sigil} : s.isLeading = false ↔ s = .paramsEnd := by
  simp [isLeading]

theorem Sigil.char_eq_semicolon {s : Sigil} : s.char = ';' ↔ s = .paramsEnd := by
  cases s <;> decide

/-- A text of sigils that a call allows in front of content: an enabled preamble, and behind it
nothing but sigils that end parameters. -/
structure Preamble.Leads (p : Preamble) (text : String) (ends : Nat) : Prop where
  sigils : Sigil.tokenize text = .ok (p.sigils ++ List.replicate ends Sigil.paramsEnd)
  enabled : ¬Leading.IsDisabled false p.tokens

namespace Preamble.Leads

variable {p : Preamble} {text : String} {ends : Nat}

/-- There is no end of parameters if its character is not in the text. -/
theorem ends_eq_zero_iff (h : p.Leads text ends) : ends = 0 ↔ ';' ∉ text.toList := by
  have hinked : Text.inked text =
      p.sigils.map Sigil.char ++ List.replicate ends Sigil.paramsEnd.char := by
    rw [Sigil.tokenize_eq_ok.mp h.sigils, List.map_append, List.map_replicate]
  have hmem : ';' ∈ text.toList ↔ ';' ∈ Text.inked text := by
    rw [Text.inked, List.mem_filter]
    exact (and_iff_left (by decide)).symm
  have hpreamble : ';' ∉ p.sigils.map Sigil.char := by
    intro hchar
    obtain ⟨s, hs, hsemicolon⟩ := List.mem_map.mp hchar
    have hleading := p.isLeading_of_mem hs
    rw [Sigil.isLeading_eq_false.mpr (Sigil.char_eq_semicolon.mp hsemicolon)] at hleading
    cases hleading
  rw [hmem, hinked, List.mem_append, not_or, List.mem_replicate]
  simp [hpreamble, Sigil.char]

/-- Constant text is not among the modes. -/
theorem output_ne (h : p.Leads text ends) : p.modes.output ≠ .constFormat := by
  intro houtput
  rcases hp : p.output with _ | s
  · rw [modes, outputMode?, hp] at houtput
    cases houtput
  · rw [modes, outputMode?, hp] at houtput
    obtain rfl : s = .constFormat := by
      cases s <;> first | rfl | cases houtput
    exact h.enabled ⟨by rw [tokens, Preamble.sigils, hp]; rfl, rfl⟩

end Preamble.Leads

/-- A text names modes if it is a preamble and nothing else. -/
theorem Modes.ofPrefix_eq_ok_iff_leads {shown text : String} {m : Modes} :
    Modes.ofPrefix false shown text = .ok m ↔ ∃ p : Preamble, p.Leads text 0 ∧ p.modes = m := by
  constructor
  · intro h
    rcases htokens : Sigil.tokenize text with e | sigils
    · rw [ofPrefix_of_tokenize_error htokens] at h
      cases h
    · obtain ⟨p, hp, hc, rfl⟩ := preamble_of_ofPrefix htokens h
      obtain rfl : sigils = p.sigils := (List.map_inj_right fun _ _ => Value.sigil.inj).mp hp
      exact ⟨p, ⟨htokens.trans (congrArg Except.ok (List.append_nil _).symm), hp ▸ hc⟩, rfl⟩
  · rintro ⟨p, ⟨hsigils, hc⟩, rfl⟩
    have hinked : Text.inked text = p.sigils.map Sigil.char := by
      rw [Sigil.tokenize_eq_ok.mp hsigils, List.replicate_zero, List.append_nil]
    rw [ofPrefix_eq_ok, hinked, ← isDisabled_map_sigil]
    exact ⟨p.isWrittenAs, hc⟩

/-- Sigils that a call reads in front of a text may stand there. -/
theorem Preamble.exists_leads_of_read {text : String} {sigils : List Sigil}
    (hsigils : Sigil.tokenize text = .ok sigils) {content : String} {l : Leading}
    (hl : Leading.read false (sigils.map .sigil ++ [.text content]) = .ok l) :
    ∃ (p : Preamble) (ends : Nat), p.Leads text ends := by
  obtain ⟨hc, p, htokens, hrest, -, -⟩ := Leading.read_eq_ok.mp hl
  have htokens' : sigils.map Value.sigil ++ [content].map .text = p.tokens ++ l.content := htokens
  obtain ⟨more, rfl, hcontent⟩ := exists_sigils_of_append htokens'
  have hmore : ∀ s ∈ more, s = .paramsEnd := by
    intro s hs
    refine Sigil.isLeading_eq_false.mp (hrest (.sigil s) ?_)
    rw [hcontent]
    exact List.mem_append_left _ (List.mem_map_of_mem hs)
  rw [List.eq_replicate_of_mem hmore] at hsigils
  refine ⟨p, more.length, hsigils, ?_⟩
  rwa [htokens, Leading.isDisabled_append fun v hv => hrest v (List.mem_of_mem_head? hv)] at hc

/-! ## The call of both commands -/

namespace CommandLine

/-- The brush of a style, which is bound with the parameters if it is a family. Those that are given
for a brush are not looked at. -/
def boundBrush (style : String) (params : List String) : Except Failure Brush := do
  match ← (Tool.lookup style).mapError Failure.call with
  | .family f => (f.bind (params.map readParam)).mapError .family
  | .brush b => return b

/-- Such a brush has one kind, and no modes of its own. -/
theorem single_of_boundBrush {style : String} {params : List String} {b : Brush}
    (h : boundBrush style params = .ok b) : (∃ k, b.kinds = [k]) ∧ b.modes = {} := by
  obtain ⟨t, ht, h⟩ := exists_of_bind_ok h
  have hlookup : Tool.lookup style = .ok t := mapError_eq_ok.mp ht
  cases t with
  | brush =>
    cases h
    exact single_of_lookup hlookup
  | family f =>
    obtain ⟨c, -, hb⟩ := exists_of_bind_ok (mapError_eq_ok.mp h)
    cases hb
    exact ⟨⟨_, rfl⟩, rfl⟩

theorem lift_mapError {α ε : Type} (g : ε → Failure) (r : Except ε α) :
    Action.lift id (r.mapError g) = Action.lift g r := by
  cases r <;> rfl

/-! ## Showing parameters -/

theorem toList_paramText (params : List Nat) : (paramText params).toList = paramChars params := by
  rw [paramText, String.toList_intercalate, List.map_map]
  have hdigits : String.toList ∘ (fun n : Nat => Number.decimal n) = Number.digits 10 := by
    funext n
    exact String.toList_ofList
  rw [hdigits]
  rfl

theorem not_mem_paramText (params : List Nat) : '\x1b' ∉ (paramText params).toList := by
  rw [toList_paramText]
  intro h
  have hchar := isParamChar_of_mem_paramChars h
  revert hchar
  decide

theorem not_mem_commaList {c : Char} (hc : c ∉ ", ".toList) {parts : List String}
    (h : ∀ s ∈ parts, c ∉ s.toList) : c ∉ (Text.commaList parts).toList := by
  induction parts with
  | nil => exact List.not_mem_nil
  | cons s parts ih =>
    obtain ⟨hs, hparts⟩ := List.forall_mem_cons.mp h
    rcases parts with _ | ⟨t, parts⟩
    · rwa [Text.commaList, String.intercalate_singleton]
    · rw [Text.commaList, String.intercalate_cons_cons, String.toList_append, String.toList_append,
        List.mem_append, List.mem_append, not_or, not_or]
      exact ⟨⟨hs, hc⟩, ih hparts⟩

/-- The line of the parameters that set. -/
def setLine (set : List Nat) : String :=
  "set:    " ++ paramText set

/-- The line of the parameters that reset. -/
def resetLine (reset : List Nat) : String :=
  "reset:  " ++ if reset.isEmpty then "-" else paramText reset

/-- The line of the groups. -/
def groupsLine (groups : List RevertGroup) : String :=
  "groups: " ++ Text.commaList (groups.map RevertGroup.name)

/-- There is no control sequence to remove from a line without an escape. -/
theorem writtenLine_of_not_mem {line : String} (h : '\x1b' ∉ line.toList) (keeps : Bool) :
    writtenLine keeps line = line ++ "\n" := by
  have hplain : ∀ c ∈ line.toList, c ≠ '\x1b' := by
    rintro c hc rfl
    exact h hc
  have hstrip : stripControl line = line := by
    have hchars := stripControlChars_plain hplain []
    have hnil : stripControlChars [] = [] := by rw [stripControlChars]
    rw [List.append_nil, hnil, List.append_nil] at hchars
    rw [stripControl, hchars, String.ofList_toList]
  rw [writtenLine, hstrip, ite_self]

theorem not_mem_setLine (set : List Nat) : '\x1b' ∉ (setLine set).toList := by
  rw [setLine, String.toList_append, List.mem_append, not_or]
  exact ⟨by decide, not_mem_paramText set⟩

theorem not_mem_resetLine (reset : List Nat) : '\x1b' ∉ (resetLine reset).toList := by
  rw [resetLine, String.toList_append, List.mem_append, not_or]
  refine ⟨by decide, ?_⟩
  split
  · decide
  · exact not_mem_paramText reset

theorem not_mem_groupsLine (groups : List RevertGroup) : '\x1b' ∉ (groupsLine groups).toList := by
  rw [groupsLine, String.toList_append, List.mem_append, not_or]
  refine ⟨by decide, not_mem_commaList (by decide) ?_⟩
  rw [List.forall_mem_map]
  intro g _
  cases g <;> decide

/-! ### The command -/

/-- Writes the lines of a resolution. -/
def echoCodes (r : Resolution) : Run Unit := do
  Run.echo (setLine r.set ++ "\n") none
  Run.echo (resetLine r.reset ++ "\n") none
  Run.echo (groupsLine r.groups ++ "\n") none

/-- The lines of a resolution. -/
def codesText (r : Resolution) : String :=
  setLine r.set ++ "\n" ++ (resetLine r.reset ++ "\n") ++ (groupsLine r.groups ++ "\n")

/-- They are written as they are. -/
theorem run_echoCodes (r : Resolution) (c : Console) :
    (echoCodes r).run.run c = (.ok (), { c with out := c.out ++ codesText r }) := by
  have hset := writtenLine_of_not_mem (not_mem_setLine r.set)
  have hreset := writtenLine_of_not_mem (not_mem_resetLine r.reset)
  have hgroups := writtenLine_of_not_mem (not_mem_groupsLine r.groups)
  rw [echoCodes, run_bind_ok (run_echo_line _ _), run_bind_ok (run_echo_line _ _), run_echo_line,
    hset, hreset, hgroups]
  simp only [codesText, String.append_assoc]

/-- What is done with the brush. -/
def codesUnder (sigils : String) (b : Brush) : Run Unit := do
  let modes ← handle (fun _ => pure ()) (prefixModes sigils none)
  let r ← handle (fun _ => pure ()) (Action.lift .kind (b.resolve (some modes.revert)))
  echoCodes r

theorem exists_bind_nil (f : ColorFamily) : ∃ e, f.bind [] = .error e := by
  rcases h : f.bind [] with e | b
  · exact ⟨e, rfl⟩
  · obtain ⟨-, ⟨v, hv⟩ | ⟨-, r, g, b, hv, -⟩⟩ := ColorFamily.bind_params h <;> cases hv

/-- A brush is found as it is for rendering, but a family without parameters is reported in other
words. -/
theorem codes_eq (o : CodesOptions) :
    codes o = handle (fun _ => pure ()) (Action.lift id (boundBrush o.style o.params)) >>=
        codesUnder o.sigils ∨
      (∃ f, boundBrush o.style o.params = .error f) ∧ ∃ message, codes o = fail message := by
  unfold codes boundBrush
  rcases Tool.lookup o.style with e | b | f
  · exact .inl ((handle_throw_bind _ _ _).trans (handle_throw_bind _ _ _).symm)
  · exact .inl rfl
  · by_cases hparams : o.params.isEmpty
    · obtain ⟨e, he⟩ := exists_bind_nil f
      have hbound : (f.bind (o.params.map readParam)).mapError Failure.family =
          .error (.family e) := by
        rw [List.isEmpty_iff.mp hparams, List.map_nil, he]
        rfl
      refine .inr ⟨⟨.family e, hbound⟩, f.name ++ " needs color parameters (--param)", ?_⟩
      simp only [Action.lift, handle_pure, pure_bind, hparams, if_true, fail_bind]
    · have hlift : Action.lift id ((f.bind (o.params.map readParam)).mapError Failure.family) =
          bindParams f o.params := lift_mapError _ _
      refine .inl ?_
      simp only [Action.lift, handle_pure, pure_bind, hparams, Bool.false_eq_true, if_false]
      exact congrArg (handle _ · >>= codesUnder o.sigils) hlift.symm

/-- A text of sigils is read under the settings in force, and leaves a silent log as it is. -/
theorem run_prefixModes {w : World} (hsilent : w.log.IsSilent) {s : Settings}
    (hactive : w.active = .ok s) (text : String) :
    ∃ w', w'.log = w.log ∧ (prefixModes text none).run.run w =
      ((Modes.ofPrefix s.constFormat (Text.quote text) text).mapError .sigil, w') := by
  have hrun := run_readPrefix (Text.quote text) text w.toContext
  rw [run_activeSettings_of_silent hsilent, hactive] at hrun
  rcases htokens : Sigil.tokenize text with e | sigils
  · rw [htokens] at hrun
    rw [prefixModes, Action.run_inContext, hrun, Modes.ofPrefix_of_tokenize_error htokens]
    exact ⟨w, rfl, rfl⟩
  · rw [htokens] at hrun
    rcases hmodes : Modes.ofPrefix s.constFormat (Text.quote text) text with e | modes
    · simp only [hmodes] at hrun
      rw [prefixModes, Action.run_inContext, hrun]
      exact ⟨{ w with settings := some s }, rfl, rfl⟩
    · simp only [hmodes] at hrun
      rw [prefixModes, Action.run_inContext, hrun]
      have hown : isOwnName "sgrfmt.sigils" := by decide
      exact ⟨_, Log.write_of_silent hsilent (Log.owns_of_isOwnName hown) _, rfl⟩

theorem leavesNoTrace_skip : LeavesNoTrace fun _ => pure () := fun _ _ _ => rfl

section Codes

variable {c : Console} (hc : c.IsQuiet) {s : Settings} (hactive : c.world.active = .ok s)
  {b : Brush} {sigils : String}

include hc hactive

/-- Sigils that name modes give the lines of the brush's kinds. -/
theorem ended_codesUnder {k : Kind} {ks : List Kind} (hkinds : b.kinds = k :: ks) {modes : Modes}
    (hmodes : Modes.ofPrefix s.constFormat (Text.quote sigils) sigils = .ok modes) :
    (ended c.stream ((codesUnder sigils b).run.run c)).1 =
      ⟨0, c.out ++ codesText (Resolution.ofKinds b.kinds modes.revert), "", none⟩ := by
  let r := Resolution.ofKinds b.kinds modes.revert
  obtain ⟨w, hlog, hrun⟩ := run_prefixModes hc.silent hactive sigils
  rw [hmodes] at hrun
  have hresolve : b.resolve (some modes.revert) = .ok r :=
    Resolution.ofKinds?_of_ne_nil (by simp [hkinds]) modes.revert
  have herr : w.log.textOf c.stream = "" := hlog ▸ hc.err
  have hecho := run_echoCodes r { c with world := w }
  unfold codesUnder
  rw [run_bind_ok (run_handle_ok hrun)]
  simp only [hresolve, Action.lift, handle_pure, pure_bind]
  rw [hecho, ended, herr]

/-- Sigils that name none end the command. -/
theorem ended_codesUnder_error {e : SigilError}
    (hmodes : Modes.ofPrefix s.constFormat (Text.quote sigils) sigils = .error e) :
    (ended c.stream ((codesUnder sigils b).run.run c)).1.status = 1 := by
  obtain ⟨w, hlog, hrun⟩ := run_prefixModes hc.silent hactive sigils
  rw [hmodes] at hrun
  rw [codesUnder, (ended_handle leavesNoTrace_skip hc hrun hlog _).1]
  exact Outcome.status_failed _ _ _ _

end Codes

section Showing

variable {o : CodesOptions} {w : World} {args : List String}
  (hargs : Command.ofWords args = .ok (.codes o)) (hw : Unconfigured w)
  (hunset : w.settings = none) (hfresh : w.HasFreshStream) (keeps : Bool)

include hargs hw hunset hfresh

omit hargs in
theorem console_of_unconfigured :
    (consoleOf w keeps).IsQuiet ∧ (consoleOf w keeps).world.active = .ok {} := by
  refine ⟨⟨⟨rfl, rfl⟩, hfresh⟩, ?_⟩
  have hconsole : (consoleOf w keeps).world.settings = none := hunset
  rw [Context.active, hconsole]
  exact hw.ofEnv

/-- Where there is no configuration, the lines of a brush and a preamble. -/
theorem run_codes_shown {b : Brush} (hb : boundBrush o.style o.params = .ok b) {p : Preamble}
    (hp : p.Leads o.sigils 0) :
    (run args keeps w).1 = ⟨0, codesText (Resolution.ofKinds b.kinds p.modes.revert), "", none⟩ := by
  obtain ⟨hquiet, hactive⟩ := console_of_unconfigured hw hunset hfresh keeps
  obtain ⟨⟨k, hkinds⟩, -⟩ := single_of_boundBrush hb
  have hmodes : Modes.ofPrefix false (Text.quote o.sigils) o.sigils = .ok p.modes :=
    Modes.ofPrefix_eq_ok_iff_leads.mpr ⟨p, hp, rfl⟩
  have hshown := ended_codesUnder hquiet hactive hkinds hmodes
  rw [run_eq_ended hargs rfl, runCommand]
  rcases codes_eq o with hcodes | ⟨⟨f, hf⟩, -⟩
  · rw [hcodes, hb, Action.lift, handle_pure, pure_bind]
    exact hshown.trans (congrArg (Outcome.mk 0 · "" none) String.empty_append)
  · rw [hb] at hf
    cases hf

/-- Without either the command ends. -/
theorem run_codes_stopped
    (h : ∀ b (p : Preamble), boundBrush o.style o.params = .ok b → ¬p.Leads o.sigils 0) :
    (run args keeps w).1.status = 1 := by
  obtain ⟨hquiet, hactive⟩ := console_of_unconfigured hw hunset hfresh keeps
  rw [run_eq_ended hargs rfl, runCommand]
  rcases codes_eq o with hcodes | ⟨-, message, hcodes⟩
  · rw [hcodes]
    rcases hb : boundBrush o.style o.params with f | b
    · have hlift : (Action.lift id (.error f) : Action Brush).run.run (consoleOf w keeps).world =
          (.error f, (consoleOf w keeps).world) := rfl
      have hended := (ended_handle leavesNoTrace_skip hquiet hlift rfl (codesUnder o.sigils)).1
      exact (congrArg Outcome.status hended).trans (Outcome.status_failed _ _ _ _)
    · rcases hmodes : Modes.ofPrefix false (Text.quote o.sigils) o.sigils with e | modes
      · rw [Action.lift, handle_pure, pure_bind]
        exact ended_codesUnder_error hquiet hactive hmodes
      · obtain ⟨p, hp, -⟩ := Modes.ofPrefix_eq_ok_iff_leads.mp hmodes
        exact absurd hp (h b p hb)
  · rw [hcodes]
    exact (congrArg Outcome.status (ended_fail hquiet message).1).trans
      (Outcome.status_reportedUnder _ _ _ _)

end Showing

end CommandLine

end Sgr
