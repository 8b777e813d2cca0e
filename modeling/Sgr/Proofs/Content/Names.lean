import Mathlib
import Sgr.Proofs.Brush.Asking
import Sgr.Proofs.Content.Modes
import Sgr.Proofs.Styling

/-!
# The names of arguments

An argument that is given by name passes through several functions before its template is filled,
and a function may have parameters of its own. A call, the styling of its content and a request hand
the names on as they are, so a text can use any name. Constant text is made by one function more,
whose template is a parameter called `template`: an argument of that name cannot be given to it.
This is the only name on which a template that is filled at once and one that becomes constant text
differ, and then they do whatever the template looks like.

## Main definitions

* `Resolution.filled` — a template between the sequences of a resolution, filled.
* `BrushParts.reached` — the resolution under which a call comes to its template.

## Main statements

* `wrap_string_filled`, `wrap_constFormat_filled`, `wrap_constFormat_named` — the output modes on
  constants, and what an argument named `template` does.
* `BrushParts.call_template` — a call with a template.
* `template_names_agree` — calls of a brush in the two modes.
-/

namespace Sgr

/-! ## Templates between sequences -/

/-- A template between the sequences of a resolution, filled with what the cells hold. -/
def Resolution.filled (r : Resolution) (store : Store) (t : String) (args : Arguments) :
    InContext RequestError String :=
  (renderTemplate (String.ofList r.opening ++ t ++ String.ofList r.closing)
    (store.viewArguments args)).mapError .template

section Wrapping

variable {store : Store} {r : Resolution} {t : String} {args : Arguments}

theorem wrap_string_filled :
    r.wrap store (.template (.text t) args) .string = Styled.text <$> r.filled store t args := by
  simp only [Resolution.wrap, assemble, Store.view_text, Value.text?, Resolution.filled,
    map_eq_pure_bind]

theorem any_viewArguments (name : String) :
    (store.viewArguments args).named.any (·.1 = name) = args.named.any (·.1 = name) := by
  simp only [Store.viewArguments, Store.viewNamed, List.any_map]
  rfl

/-- Constants become constant text unless one of them is named like the template. -/
theorem wrap_constFormat_filled (hn : ∀ a ∈ args.named, a.1 ≠ "template")
    (hconstant : ∀ v ∈ args.positional ++ args.named.map Prod.snd, (store.view v).isConstant) :
    r.wrap store (.template (.text t) args) .constFormat =
      Styled.constText <$> r.filled store t args := by
  have hviewed : ∀ a ∈ (store.viewArguments args).named, a.1 ≠ "template" := by
    have h : (store.viewArguments args).named.any (·.1 = "template") = false := by
      rw [any_viewArguments]
      simpa using hn
    simpa using h
  simp only [Resolution.wrap, assemble, Store.view_text, Value.text?, formatConstant_eq hviewed,
    (mutable?_viewArguments args).mpr hconstant, Resolution.filled, map_eq_pure_bind]

/-- An argument that is named like the template is refused before anything is looked at. -/
theorem wrap_constFormat_named (hn : ∃ a ∈ args.named, a.1 = "template") :
    r.wrap store (.template (.text t) args) .constFormat =
      throw (.binding (.repeated "formatcp" "template")) := by
  have hany : (store.viewArguments args).named.any (·.1 = "template") = true := by
    rw [any_viewArguments]
    simpa using hn
  simp only [Resolution.wrap, assemble, Store.view_text, Value.text?, formatConstant, hany, if_true]
  rfl

end Wrapping

/-! ## Calls with a template -/

namespace BrushParts

variable {p : BrushParts} {output : OutputMode}

/-- The resolution under which a call comes to its template, unless its content has sigils that
belong in front of it or its kinds are none. -/
def reached (p : BrushParts) (ts : List Value) : Except Failure Resolution := do
  (Leading.checkContent false ts).mapError .sigil
  p.resolve none

/-- The output mode plays no part in it. -/
theorem reached_output (p : BrushParts) (o : Value) (ts : List Value) :
    { p with output := o }.reached ts = p.reached ts := rfl

/-- A call with a template in front puts it between the sequences of the kinds. -/
theorem call_template (h : p.output = .output output) (hneeds : output.needsTemplate)
    (store : Store) (t : String) (args : List Value) (kw : List (String × Value)) :
    p.call store true (.text t :: args) kw = (do
      let r ← InContext.ofExcept id (p.reached (.text t :: args))
      (r.wrap store (.template (.text t) ⟨args, kw⟩) output).mapError RequestError.failure) := by
  have hfirst : ∀ v ∈ (Value.text t :: args).head?, v.isLeadingSigil = false := by
    simp [Value.isLeadingSigil]
  have hcontent : Content.ofTokens output (.text t :: args) kw =
      .ok (.template (.text t) ⟨args, kw⟩) := by
    simp [Content.ofTokens, hneeds, Value.text?]
  have hresolve : p.resolve (some p.ownRevert) = p.resolve none := rfl
  rw [call_own (ownModes_of_output h) store true hfirst kw, reached]
  rcases Leading.checkContent false (.text t :: args) with e | _
  · rfl
  · simp only [style, Bool.not_true, Bool.and_false, Bool.false_eq_true, if_false, hcontent,
      hresolve, InContext.ofExcept_ok, pure_bind]
    rfl

end BrushParts

/-! ## Running -/

/-- What is a brush or a family is that. -/
theorem eq_value_of_tool? {v : Value} {tool : Tool} (h : v.tool? = some tool) : v = tool.value := by
  cases v with
  | brush b => cases h; rfl
  | family f => cases h; rfl
  | _ => cases h

section Running

variable {w : World} {m : Value} {s : Settings}

/-- A call of what looks like a brush, whether its parts fit or not, under active settings. -/
theorem run_callValue_parts {p : BrushParts} (hm : (w.store.view m).brushParts? = some p)
    (hs : w.settings = some s) (ts : List Value) {kw : List (String × Value)}
    (hkw : ∀ a ∈ kw, a.1 ≠ "self") :
    (callValue m ts kw).run.run w =
      (styledIn (p.call w.store s.constFormat ts kw)).run.run w := by
  rcases hcontents : (w.store.contents m).tool? with _ | tool
  · have htool : (toolOf? m).run.run w = (.ok none, w) := by rw [← hcontents]; rfl
    have hparts : (partsOf? m).run.run w = (.ok (some p), w) := by rw [← hm]; rfl
    rw [callValue, run_bind_ok htool, run_bind_ok hparts]
    simp only [refuseNamed_of_not_mem hkw, pure_bind]
    rw [run_bind_ok (run_enabled hs), run_bind_ok (run_get w)]
    rfl
  · -- a brush is looked up as it is, and so is a family, which has no parts
    have hvalue := eq_value_of_tool? hcontents
    cases tool with
    | brush b =>
      rw [Store.view_of_brush hvalue] at hm
      obtain rfl : BrushParts.ofBrush b = p := Option.some.inj hm
      rw [run_callValue hvalue hs ts hkw, BrushParts.call_ofBrush]
    | family f =>
      rw [Store.view_of_family hvalue] at hm
      cases hm

/-- Styling that gives no deferred text leaves the cells as they are. -/
theorem run_styledIn_map {f : String → Styled}
    (hf : ∀ text, styledValue (f text) = pure (f text).value) (x : InContext Failure String)
    (w : World) :
    (styledIn (f <$> x)).run.run w =
      ((x.run.run w.toContext).1.map fun text => (f text).value,
        { w with toContext := (x.run.run w.toContext).2 }) := by
  rw [styledIn, run_bind, Action.run_inContext, map_eq_pure_bind, run_bind]
  rcases x.run.run w.toContext with ⟨e | text, c⟩
  · rfl
  · exact congrArg (·.run.run { w with toContext := c }) (hf text)

end Running

/-! ## The two modes -/

/-- A brush whose output is filled at once, and the same brush for constant text, give the same text
for every template and all constants, with the same effects, or fail alike, as long as no argument
is named `template`. An argument of that name has no effect either if the call fails before it comes
to its template; otherwise the brush for constant text refuses it, whatever the other one does. -/
theorem template_names_agree {w : World} {m m' : Value} {p : BrushParts} {s : Settings}
    (hm : (w.store.view m).brushParts? = some { p with output := .output .string })
    (hm' : (w.store.view m').brushParts? = some { p with output := .output .constFormat })
    (hs : w.settings = some s) (hallowed : s.constFormat = true) (t : String)
    {args : List Value} {kw : List (String × Value)}
    (hconstant : ∀ v ∈ args ++ kw.map Prod.snd, (w.store.view v).isConstant)
    (hself : ∀ a ∈ kw, a.1 ≠ "self") :
    let tokens := .text t :: args
    let collides := (∃ a ∈ kw, a.1 = "template") ∧ ∃ r, p.reached tokens = .ok r
    (¬collides → ∃ (result : Except Failure String) (c : Context),
      (callValue m tokens kw).run.run w = (result.map .text, { w with toContext := c }) ∧
      (callValue m' tokens kw).run.run w = (result.map .constText, { w with toContext := c })) ∧
    (collides → (callValue m' tokens kw).run.run w =
      (.error (.binding (.repeated "formatcp" "template")), w)) := by
  intro tokens collides
  have hstring := run_callValue_parts hm hs tokens hself
  have hconst := run_callValue_parts hm' hs tokens hself
  rw [hallowed, BrushParts.call_template rfl rfl, BrushParts.reached_output] at hstring hconst
  constructor
  · intro hfree
    rcases hreached : p.reached tokens with e | r
    · rw [hreached] at hstring hconst
      exact ⟨.error e, w.toContext, hstring, hconst⟩
    · have hn : ∀ a ∈ kw, a.1 ≠ "template" :=
        fun a ha hname => hfree ⟨⟨a, ha, hname⟩, r, hreached⟩
      let x := (r.filled w.store t ⟨args, kw⟩).mapError RequestError.failure
      rw [hreached, InContext.ofExcept_ok, pure_bind, wrap_string_filled, InContext.mapError_map,
        run_styledIn_map fun _ => rfl] at hstring
      rw [hreached, InContext.ofExcept_ok, pure_bind, wrap_constFormat_filled hn hconstant,
        InContext.mapError_map, run_styledIn_map fun _ => rfl] at hconst
      exact ⟨(x.run.run w.toContext).1, (x.run.run w.toContext).2, hstring, hconst⟩
  · rintro ⟨hnamed, r, hreached⟩
    rw [hconst, hreached, InContext.ofExcept_ok, pure_bind, wrap_constFormat_named hnamed]
    rfl

/-- A bold template with names that are parameters elsewhere. -/
theorem template_names_agree_bold :
    let w : World := { settings := some { constFormat := true } }
    let bold (output : OutputMode) : Value :=
      .brush { name := "bold", kinds := [.style .bold], modes := ⟨output, .single⟩ }
    let tokens : List Value := [.text "\x7brevert\x7d\x7b\x7d", .int 5]
    let kw : List (String × Value) := [("revert", .text "x"), ("args", .nothing)]
    ((callValue (bold .string) tokens kw).run.run w).1 = .ok (.text "\x1b[1mx5\x1b[22m") ∧
      ((callValue (bold .constFormat) tokens kw).run.run w).1 =
        .ok (.constText "\x1b[1mx5\x1b[22m") := by
  intro w bold tokens kw
  have hparts (output : OutputMode) : (w.store.view (bold output)).brushParts? =
      some { BrushParts.ofBrush ⟨"bold", [.style .bold], {}⟩ with output := .output output } := by
    rw [Store.view_of_brush rfl]
    rfl
  have hconstant : ∀ v ∈ [Value.int 5] ++ kw.map Prod.snd, (w.store.view v).isConstant := by
    simp [kw, Store.view, Store.expand, Value.isConstant]
  obtain ⟨hagree, -⟩ := template_names_agree (hparts .string) (hparts .constFormat) rfl rfl
    "\x7brevert\x7d\x7b\x7d" hconstant (by simp [kw])
  obtain ⟨result, c, hstring, hconst⟩ := hagree (by simp [kw])
  have htext : ((callValue (bold .string) tokens kw).run.run w).1 =
      .ok (.text "\x1b[1mx5\x1b[22m") := by cbv
  refine ⟨htext, ?_⟩
  rw [hstring] at htext
  rw [hconst]
  cases result with
  | error e => cases htext
  | ok text =>
    cases htext
    rfl

/-- With an argument named `template`, the two modes differ. -/
theorem template_name_collides :
    let w : World := { settings := some { constFormat := true } }
    let bold (output : OutputMode) : Value :=
      .brush { name := "bold", kinds := [.style .bold], modes := ⟨output, .single⟩ }
    let tokens : List Value := [.text "\x7btemplate\x7d"]
    let kw : List (String × Value) := [("template", .text "x")]
    ((callValue (bold .string) tokens kw).run.run w).1 = .ok (.text "\x1b[1mx\x1b[22m") ∧
      ∃ e, ((callValue (bold .constFormat) tokens kw).run.run w).1 = .error e ∧
        e.errorClass = .wrongType := by
  intro w bold tokens kw
  refine ⟨?_, .binding (.repeated "formatcp" "template"), ?_, rfl⟩ <;> cbv

end Sgr
