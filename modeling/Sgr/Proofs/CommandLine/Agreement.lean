import Sgr.Proofs.Brush.Plain
import Sgr.Proofs.CommandLine.Codes

/-!
# Showing what rendering prints

One command shows the parameters of a style, and another renders content with them. Both find the
brush of the style and read the same sigils, but each checks something that the other does not: only
rendering refuses parameters for a brush, and only showing refuses sigils that end parameters, which
a call takes for content. Apart from that they agree, and what is shown is what is printed.

## Main definitions

* `CodesOptions.rendering` — the command that renders a letter in the same way.

## Main statements

* `commandText_eq` — the call of the rendering command.
* `styledText_of_leads`, `styledText_of_not_leads` — what it gives for the letter.
* `run_rendering_shown`, `run_rendering_stopped` — the outcome of rendering the letter.
* `codes_shows_rendering` — where the commands agree.
* `codes_and_rendering_differ` — where they do not.
-/

namespace Sgr.CommandLine

/-- The command that renders the letter `x` in a style. -/
def CodesOptions.rendering (o : CodesOptions) (color : Option String) : RenderOptions where
  style := o.style
  content := ["x"]
  sigils := o.sigils
  params := o.params
  color := color

/-- What stands behind the preamble: the sigils that end parameters, and the letter. -/
def trailing (ends : Nat) : List Value :=
  List.replicate ends (.sigil .paramsEnd) ++ [.text "x"]

theorem mem_trailing {ends : Nat} {v : Value} (h : v ∈ trailing ends) :
    v = .sigil .paramsEnd ∨ v = .text "x" := by
  rcases List.mem_append.mp h with h | h
  · exact .inl (List.eq_of_mem_replicate h)
  · exact .inr (List.mem_singleton.mp h)

/-! ## The call -/

/-- The command binds a family as it is asked to, and calls a brush as it is. -/
theorem commandText_eq (style : String) (params : List String) (sigils : String)
    (content : List String) :
    commandText style params sigils content = (do
      let b ← Action.lift id (boundBrush style params)
      shownText (.brush b) sigils content) := by
  unfold commandText boundBrush
  simp only [renderText_eq]
  rcases Tool.lookup style with e | b | f
  · rfl
  · rfl
  · exact (pure_bind _ _).trans (congrArg (· >>= _) (lift_mapError _ _).symm)

section Call

variable {style : String} {params : List String} {sigils : String} {w : World} {s : Settings}
  (hs : w.settings = some s) (hconst : s.constFormat = false)

include hs hconst

omit hconst in
theorem styledText_eq_commandText (content : List String) :
    ((styledText style (params.map readParam) sigils content).run.run w).1 =
      ((commandText style params sigils content).run.run w).1 := by
  obtain ⟨text, htext⟩ := exists_text style params sigils content s.constFormat
  obtain ⟨hlibrary, store, hcommand⟩ := htext w s hs rfl
  rw [hlibrary, hcommand]

/-- The call of a brush with sigils that may lead. -/
theorem styledText_of_leads {b : Brush} (hb : boundBrush style params = .ok b) {p : Preamble}
    {ends : Nat} (hp : p.Leads sigils ends) :
    let r := Resolution.ofKinds b.kinds p.modes.revert
    ((styledText style (params.map readParam) sigils ["x"]).run.run w).1 =
      .ok (String.ofList
        (r.opening ++ contentChars p.modes.output (trailing ends) ++ r.closing)) := by
  intro r
  obtain ⟨⟨k, hkinds⟩, hmodes⟩ := single_of_boundBrush hb
  obtain ⟨v, vs, hcontent⟩ : ∃ v vs, trailing ends = v :: vs :=
    List.exists_cons_of_ne_nil (by simp [trailing])
  have hmem : ∀ u ∈ v :: vs, u = .sigil .paramsEnd ∨ u = .text "x" :=
    fun u hu => mem_trailing (hcontent ▸ hu)
  have htexts : AllTexts (v :: vs) := fun u hu => by
    rcases hmem u hu with rfl | rfl <;> rfl
  have hleading : ∀ u ∈ v :: vs, u.isLeadingSigil = false := fun u hu => by
    rcases hmem u hu with rfl | rfl <;> rfl
  have hplain : v.str.toList.all Script.isPlain := by
    rcases hmem v List.mem_cons_self with rfl | rfl <;> decide
  have hdisabled : ¬Leading.IsDisabled s.constFormat p.tokens := hconst ▸ hp.enabled
  have hshown := run_shownCall_plain (m := .brush b) rfl hs hkinds hmodes hdisabled hp.output_ne
    htexts hleading hplain
  have htokens : (p.sigils ++ List.replicate ends Sigil.paramsEnd).map Value.sigil ++
      ["x"].map .text = p.tokens ++ v :: vs := by
    rw [← hcontent, trailing, List.map_append, List.map_replicate, List.append_assoc]
    rfl
  rw [styledText_eq_commandText hs, commandText_eq, hb, Action.lift, pure_bind, shownText,
    hp.sigils, Action.lift, pure_bind, htokens, hshown, hcontent]

/-- Without a brush or such sigils the call fails. -/
theorem styledText_of_not_leads
    (h : ∀ b, boundBrush style params = .ok b → ∀ (p : Preamble) ends, ¬p.Leads sigils ends) :
    ∃ f, ((styledText style (params.map readParam) sigils ["x"]).run.run w).1 = .error f := by
  rw [styledText_eq_commandText hs, commandText_eq]
  rcases hb : boundBrush style params with f | b
  · exact ⟨f, rfl⟩
  · rw [Action.lift, pure_bind, shownText]
    rcases hsigils : Sigil.tokenize sigils with e | ts
    · exact ⟨.sigil e, rfl⟩
    · rw [Action.lift, pure_bind]
      rcases hread : Leading.read s.constFormat (ts.map .sigil ++ [.text "x"]) with e | l
      · exact ⟨.sigil e, run_shownCall_unread (m := .brush b) rfl hs hread⟩
      · rw [hconst] at hread
        obtain ⟨p, ends, hp⟩ := Preamble.exists_leads_of_read hsigils hread
        exact absurd hp (h b hb p ends)

end Call

/-! ## The outcome -/

section Rendering

variable {o : CodesOptions} {color : Option String} {w : World} {args : List String}
  (hargs : Command.ofWords args = .ok (.render (o.rendering color))) (hw : Unconfigured w)
  (hfresh : w.HasFreshStream) (keeps : Bool)

include hargs hw hfresh

/-- Where there is no configuration, the text of a brush and of sigils that may lead. -/
theorem run_rendering_shown (hfits : (o.rendering color).ParamsFit) {b : Brush}
    (hb : boundBrush o.style o.params = .ok b) {p : Preamble} {ends : Nat}
    (hp : p.Leads o.sigils ends) :
    let r := Resolution.ofKinds b.kinds p.modes.revert
    let text := String.ofList
      (r.opening ++ contentChars p.modes.output (trailing ends) ++ r.closing)
    (run args keeps w).1 =
      ⟨0, (if KeepsColor w.env (color.getD "auto") then text else stripControl text) ++ "\n", "",
        none⟩ := by
  intro r text
  have hsettings : ((chosenSettings ((o.rendering color).file.filter (· ≠ ""))).run.run w).1 =
      .ok {} := hw.settings
  have hrun := run_render_text hargs hfresh keeps hfits hsettings rfl
  have hcall := styledText_of_leads (w := { w with settings := some {} }) rfl rfl hb hp
  have htext : ((styledText (o.rendering color).style ((o.rendering color).params.map readParam)
      (o.rendering color).sigils (o.rendering color).content).run.run
      { w with settings := some {} }).1 = .ok text := hcall
  rw [hrun, htext]
  rfl

theorem run_rendering_stopped
    (h : (o.rendering color).ParamsFit → ∀ b, boundBrush o.style o.params = .ok b →
      ∀ (p : Preamble) ends, ¬p.Leads o.sigils ends) :
    (run args keeps w).1.status = 1 := by
  have hsettings : ((chosenSettings ((o.rendering color).file.filter (· ≠ ""))).run.run w).1 =
      .ok {} := hw.settings
  by_cases hfits : (o.rendering color).ParamsFit
  · have hrun := run_render_text hargs hfresh keeps hfits hsettings rfl
    obtain ⟨f, hcall⟩ := styledText_of_not_leads (w := { w with settings := some {} }) rfl rfl
      (h hfits)
    have htext : ((styledText (o.rendering color).style ((o.rendering color).params.map readParam)
        (o.rendering color).sigils (o.rendering color).content).run.run
        { w with settings := some {} }).1 = .error f := hcall
    rw [hrun, htext]
    exact Outcome.status_failed _ _ _ _
  · obtain ⟨message, hrun⟩ := run_render_unfit hargs hfresh keeps hfits hsettings rfl
    rw [hrun]
    rfl

end Rendering

/-! ## Agreement -/

/-- The sequence of parameters as text. -/
theorem ofList_sgr {params : List Nat} (h : params ≠ []) :
    String.ofList (sgr params) = "\x1b[" ++ paramText params ++ "m" := by
  rw [sgr_of_ne_nil h, ← toList_paramText, String.ofList_append, String.ofList_append,
    String.ofList_toList]
  rfl

/-- The letter between the sequences of a resolution, of which the closing one may be missing. -/
theorem ofList_letter (output : OutputMode) {r : Resolution} (hset : r.set ≠ []) :
    String.ofList (r.opening ++ contentChars output (trailing 0) ++ r.closing) =
      "\x1b[" ++ paramText r.set ++ "m" ++ "x" ++
        (if r.reset = [] then "" else "\x1b[" ++ paramText r.reset ++ "m") := by
  have hcontent : contentChars output (trailing 0) = "x".toList := contentChars_text output "x"
  have hclosing : String.ofList (sgr r.reset) =
      if r.reset = [] then "" else "\x1b[" ++ paramText r.reset ++ "m" := by
    by_cases hreset : r.reset = []
    · rw [if_pos hreset, hreset]
      rfl
    · rw [if_neg hreset, ofList_sgr hreset]
  rw [hcontent, String.ofList_append, String.ofList_append, String.ofList_toList,
    Resolution.opening, Resolution.closing, ofList_sgr hset, hclosing]

/-- The parameters of a style are never none, since it has a kind. -/
theorem set_ne_nil_of_boundBrush {style : String} {params : List String} {b : Brush}
    (h : boundBrush style params = .ok b) (revert : RevertMode) :
    (Resolution.ofKinds b.kinds revert).set ≠ [] := by
  obtain ⟨⟨k, hkinds⟩, -⟩ := single_of_boundBrush h
  simp [hkinds, Resolution.ofKinds, k.params_ne_nil]

section Agreement

variable {o : CodesOptions} {w : World} (hw : Unconfigured w) (hfresh : w.HasFreshStream)

include hw hfresh

theorem status_codes_eq_zero_iff (hunset : w.settings = none) {args : List String}
    (hargs : Command.ofWords args = .ok (.codes o)) (keeps : Bool) :
    (run args keeps w).1.status = 0 ↔
      ∃ b, boundBrush o.style o.params = .ok b ∧ ∃ p : Preamble, p.Leads o.sigils 0 := by
  constructor
  · intro hstatus
    refine Classical.byContradiction fun h => ?_
    have hstopped := run_codes_stopped hargs hw hunset hfresh keeps fun b p hb hp =>
      h ⟨b, hb, p, hp⟩
    rw [hstatus] at hstopped
    cases hstopped
  · rintro ⟨b, hb, p, hp⟩
    rw [run_codes_shown hargs hw hunset hfresh keeps hb hp]

theorem status_rendering_eq_zero_iff {color : Option String} {args : List String}
    (hargs : Command.ofWords args = .ok (.render (o.rendering color))) (keeps : Bool) :
    (run args keeps w).1.status = 0 ↔
      (o.rendering color).ParamsFit ∧ ∃ b, boundBrush o.style o.params = .ok b ∧
        ∃ (p : Preamble) (ends : Nat), p.Leads o.sigils ends := by
  constructor
  · intro hstatus
    refine Classical.byContradiction fun h => ?_
    have hstopped := run_rendering_stopped hargs hw hfresh keeps fun hfits b hb p ends hp =>
      h ⟨hfits, b, hb, p, ends, hp⟩
    rw [hstatus] at hstopped
    cases hstopped
  · rintro ⟨hfits, b, hb, p, ends, hp⟩
    rw [run_rendering_shown hargs hw hfresh keeps hfits hb hp]

/-- For every style, parameters and sigils there are words that ask for each command. Where there is
no configuration, whatever words ask for them do the same but for two things. One command takes no
sigils with an end of parameters, and the other no parameters that do not fit; apart from that one
has an answer exactly where the other has. What the first one shows are then the parameters of the
sequences in front of the letter and behind it, and a hyphen if there is none behind it. -/
theorem codes_shows_rendering (o : CodesOptions) (hunset : w.settings = none) :
    Command.ofWords o.words = .ok (.codes o) ∧
    (∀ color : Option String, (∀ c ∈ color, c ∈ colorChoices) →
      Command.ofWords (o.rendering color).words = .ok (.render (o.rendering color))) ∧
    ∀ (args args' : List String) (color : Option String) (keeps keeps' : Bool),
      Command.ofWords args = .ok (.codes o) →
      Command.ofWords args' = .ok (.render (o.rendering color)) →
      let shown := (run args keeps w).1
      let rendered := (run args' keeps' w).1
      let fits := (o.rendering color).ParamsFit
      (shown.status = 0 → ';' ∉ o.sigils.toList) ∧
      (rendered.status = 0 → fits) ∧
      (fits → ';' ∉ o.sigils.toList → (shown.status = 0 ↔ rendered.status = 0)) ∧
      (shown.status = 0 → ∃ (set reset : List Nat) (groups : String),
        shown = ⟨0, "set:    " ++ paramText set ++ "\n" ++
          "reset:  " ++ (if reset = [] then "-" else paramText reset) ++ "\n" ++
          "groups: " ++ groups ++ "\n", "", none⟩ ∧
        (rendered.status = 0 → color = some "always" →
          rendered = ⟨0, "\x1b[" ++ paramText set ++ "m" ++ "x" ++
            (if reset = [] then "" else "\x1b[" ++ paramText reset ++ "m") ++ "\n", "", none⟩)) := by
  refine ⟨ofWords_codes o, fun color hcolor => ofWords_render hcolor, ?_⟩
  intro args args' color keeps keeps' hargs hargs' shown rendered fits
  have hshown := status_codes_eq_zero_iff hw hfresh hunset hargs keeps
  have hrendered := status_rendering_eq_zero_iff hw hfresh hargs' keeps'
  refine ⟨fun h => ?_, fun h => (hrendered.mp h).1, fun hfits hsigils => ?_, fun h => ?_⟩
  · obtain ⟨b, hb, p, hp⟩ := hshown.mp h
    exact hp.ends_eq_zero_iff.mp rfl
  · rw [hshown, hrendered]
    constructor
    · rintro ⟨b, hb, p, hp⟩
      exact ⟨hfits, b, hb, p, 0, hp⟩
    · rintro ⟨-, b, hb, p, ends, hp⟩
      obtain rfl := hp.ends_eq_zero_iff.mpr hsigils
      exact ⟨b, hb, p, hp⟩
  · obtain ⟨b, hb, p, hp⟩ := hshown.mp h
    let r := Resolution.ofKinds b.kinds p.modes.revert
    refine ⟨r.set, r.reset, Text.commaList (r.groups.map RevertGroup.name), ?_, ?_⟩
    · have hlines := run_codes_shown hargs hw hunset hfresh keeps hb hp
      simp only [codesText, setLine, resetLine, groupsLine, List.isEmpty_iff] at hlines
      simp only [shown, hlines, r, String.append_assoc]
    · rintro hstatus rfl
      have hfits := (hrendered.mp hstatus).1
      have htext := run_rendering_shown hargs' hw hfresh keeps' hfits hb hp
      have hkeeps : KeepsColor w.env ((some "always").getD "auto") := .inl rfl
      have hset := set_ne_nil_of_boundBrush hb p.modes.revert
      simp only [if_pos hkeeps, ofList_letter p.modes.output hset] at htext
      exact htext

end Agreement

theorem boundBrush_bold (params : List String) :
    boundBrush "bold" params = .ok (.ofStyle .bold) := by
  rw [boundBrush, lookup_bold]
  rfl

/-- The modes of a bold letter are those of a sigil in front of it. -/
theorem codes_shows_rendering_bold :
    let shown := (run ["codes", "--sigils", "*", "--", "bold"] false {}).1
    let rendered :=
      (run ["render", "--sigils", "*", "--color", "always", "--", "bold", "x"] false {}).1
    shown.status = 0 ∧ rendered.status = 0 ∧ ∃ (set reset : List Nat) (groups : String),
      shown = ⟨0, "set:    " ++ paramText set ++ "\n" ++
        "reset:  " ++ (if reset = [] then "-" else paramText reset) ++ "\n" ++
        "groups: " ++ groups ++ "\n", "", none⟩ ∧
      rendered = ⟨0, "\x1b[" ++ paramText set ++ "m" ++ "x" ++
        (if reset = [] then "" else "\x1b[" ++ paramText reset ++ "m") ++ "\n", "", none⟩ := by
  intro shown rendered
  obtain ⟨o, ho⟩ : ∃ o : CodesOptions, o = { style := "bold", sigils := "*" } := ⟨_, rfl⟩
  have hwords : o.words = ["codes", "--sigils", "*", "--", "bold"] := by
    rw [ho]
    rfl
  have hwords' : (o.rendering (some "always")).words =
      ["render", "--sigils", "*", "--color", "always", "--", "bold", "x"] := by
    rw [ho]
    rfl
  have hfits : (o.rendering (some "always")).ParamsFit := by
    rw [ho]
    exact RenderOptions.paramsFit_of_brush lookup_bold rfl
  have hsigils : ';' ∉ o.sigils.toList := by
    rw [ho]
    decide
  have hb : boundBrush o.style o.params = .ok (.ofStyle .bold) := by
    rw [ho]
    exact boundBrush_bold []
  have hp : (Modes.preamble ⟨.literal, .total⟩ false nofun).Leads o.sigils 0 := by
    rw [ho]
    exact ⟨rfl, fun h => by cases h.1⟩
  have hunconfigured := unconfigured_default
  obtain ⟨hread, hread', hruns⟩ := codes_shows_rendering hunconfigured rfl o rfl
  have hcolor : ∀ c ∈ some "always", c ∈ colorChoices := by decide
  obtain ⟨-, -, hsame, hlines⟩ := hruns o.words (o.rendering (some "always")).words
    (some "always") false false hread (hread' _ hcolor)
  rw [hwords, hwords'] at hsame hlines
  have hshown : shown.status = 0 := by
    have h := run_codes_shown hread hunconfigured rfl rfl false hb hp
    rw [hwords] at h
    exact congrArg Outcome.status h
  have hrendered : rendered.status = 0 := (hsame hfits hsigils).mp hshown
  obtain ⟨set, reset, groups, hset, htext⟩ := hlines hshown
  exact ⟨hshown, hrendered, set, reset, groups, hset, htext hrendered rfl⟩

/-- A parameter that does not fit stops only one command, and an end of parameters only the other.
-/
theorem codes_and_rendering_differ :
    (run ["codes", "--param", "1", "--sigils", "", "--", "bold"] false {}).1 =
      ⟨0, "set:    1\nreset:  22\ngroups: intensity\n", "", none⟩ ∧
    (run ["render", "--sigils", "", "--param", "1", "--", "bold", "x"] false {}).1.status = 1 ∧
    (run ["render", "--sigils", ";", "--", "bold", "x"] false {}).1 = ⟨0, ";x\n", "", none⟩ ∧
    (run ["codes", "--sigils", ";", "--", "bold"] false {}).1.status = 1 := by
  have hunconfigured := unconfigured_default
  have hleads (ends : Nat) (text : String)
      (h : Sigil.tokenize text = .ok (List.replicate ends .paramsEnd)) :
      Leading.noPreamble.Leads text ends := ⟨h, fun h => by cases h.1⟩
  have hread (o : CodesOptions) : Command.ofWords (o.rendering none).words =
      .ok (.render (o.rendering none)) := ofWords_render nofun
  refine ⟨?_, ?_, ?_, ?_⟩
  · exact run_codes_shown (ofWords_codes ⟨"bold", ["1"], ""⟩) hunconfigured rfl rfl false
      (boundBrush_bold _) (hleads 0 "" rfl)
  · refine run_rendering_stopped (hread ⟨"bold", ["1"], ""⟩) hunconfigured rfl false
      fun hfits => ?_
    cases hfits.brush _ lookup_bold
  · have hfits : (CodesOptions.rendering ⟨"bold", [], ";"⟩ none).ParamsFit :=
      RenderOptions.paramsFit_of_brush lookup_bold rfl
    have hshown := run_rendering_shown (hread ⟨"bold", [], ";"⟩) hunconfigured rfl false hfits
      (boundBrush_bold _) (hleads 1 ";" rfl)
    refine hshown.trans ?_
    cbv
  · refine run_codes_stopped (ofWords_codes ⟨"bold", [], ";"⟩) hunconfigured rfl rfl false ?_
    intro b p _ hp
    exact hp.ends_eq_zero_iff.mp rfl (by decide)

end Sgr.CommandLine
