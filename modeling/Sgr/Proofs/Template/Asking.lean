import Sgr.Proofs.Asking
import Sgr.Proofs.Template.Field

/-!
# Filling asks for the settings

A template reads sigils where a field steps into a brush by a key, and nowhere else, so filling it
does no more in its context than ask for the settings. Neither a malformed template nor a value that
does not fit its specification is a refusal of constant text; only the sigils of such a key are.

## Main definitions

* `Writer.Asks` — a way of writing values that does no more than ask.

## Main statements

* `index_asks` — the brush of a key in brackets.
* `find_asks` — the value of a field's name.
* `renderTemplate_asks`, `render_asks` — the text of a template, and of a value.
-/

namespace Sgr

variable {allowed : Bool} {ε α : Type}

/-! ## Classes that are no refusal -/

theorem Admits.of_ne {cls : ε → ErrorClass} (h : ∀ e, cls e ≠ .unsupportedMode)
    (r : Except ε α) : Admits allowed cls r :=
  fun e _ he => absurd he (h e)

@[grind .] theorem TextFault.errorClass_ne (fault : TextFault) :
    fault.errorClass ≠ .unsupportedMode := by
  cases fault <;> grind [errorClass]

@[grind .] theorem AccessError.errorClass_ne (e : AccessError) :
    e.errorClass ≠ .unsupportedMode := by
  cases e <;> grind [errorClass]

@[grind .] theorem ColorError.errorClass_ne (e : ColorError) : e.errorClass ≠ .unsupportedMode := by
  cases e <;> grind [errorClass]

@[grind .] theorem FamilyError.errorClass_ne (e : FamilyError) :
    e.errorClass ≠ .unsupportedMode := by
  cases e <;> grind [errorClass]

attribute [local grind =] BracketError.errorClass FormatFault.errorClass

@[grind →] theorem errorClass_of_listingError? {v : Value} {e : BracketError}
    (h : v.listingError? = some e) : e.errorClass ≠ .unsupportedMode := by
  unfold Value.listingError? at h
  split at h
  · cases h
    grind
  · obtain ⟨t, -, rfl⟩ := Option.map_eq_some_iff.mp h
    cases t <;> grind [Tool.listingError]

/-! ## Keys in brackets -/

theorem prefixOf_asks (key : Value) : Asks allowed BracketError.errorClass (prefixOf key) := by
  unfold prefixOf
  split
  · grind
  · exact (readPrefix_asks _ _).mapError fun _ => id

/-- The brush of a key in brackets behind a brush or a family. -/
theorem index_asks (t : Tool) (key : Value) : Asks allowed BracketError.errorClass (t.index key) := by
  cases t with
  | brush b => exact (prefixOf_asks key).bind fun modes => .pure _
  | family f => exact .ofExcept (.of_ne FamilyError.errorClass_ne _) fun _ => rfl

theorem kindValues_admits (p : BrushParts) :
    Admits allowed BracketError.errorClass p.kindValues := by
  unfold BrushParts.kindValues
  grind

theorem BrushParts.withModes_admits (p : BrushParts) (output : Option OutputMode)
    (revert : Option RevertMode) :
    Admits allowed BracketError.errorClass (p.withModes output revert) :=
  (kindValues_admits p).bind fun _ => .pure _

theorem BrushParts.index_asks (p : BrushParts) (key : Value) :
    Asks allowed BracketError.errorClass (p.index key) :=
  (prefixOf_asks key).bind fun _ => Asks.ofExcept (p.withModes_admits _ _) fun _ => rfl

/-! ## Finding values -/

@[grind ←] theorem item_asks (r : Except AccessError Value) :
    Asks allowed FormatFault.errorClass (InContext.ofExcept .access r) :=
  .ofExcept (.of_ne AccessError.errorClass_ne r) fun _ => rfl

@[grind ←] theorem bracket_asks (v key : Value) :
    Asks allowed FormatFault.errorClass (v.bracket key) := by
  have tool (t : Tool) :
      Asks allowed FormatFault.errorClass ((t.index key).mapError .bracket) :=
    (index_asks t key).mapError fun _ => id
  have parts (p : BrushParts) :
      Asks allowed FormatFault.errorClass ((p.index key).mapError .bracket) :=
    (p.index_asks key).mapError fun _ => id
  unfold Value.bracket
  grind

@[grind ←] theorem walk_asks (v : Value) (steps : List Step) :
    Asks allowed FormatFault.errorClass (v.walk steps) := by
  induction steps generalizing v with
  | nil => exact .pure v
  | cons s ss ih =>
    have step : Asks allowed FormatFault.errorClass (v.step s) := by
      cases s <;> grind [Value.step]
    exact step.bind fun u => ih u

theorem bracketStep_admits (inner : List Char) :
    Admits allowed FormatFault.errorClass (Path.bracketStep inner) := by
  have index (n : Nat) (cs : List Char) :
      Admits allowed FormatFault.errorClass (Path.readIndexFrom n cs) := by
    fun_induction Path.readIndexFrom n cs <;> grind
  grind [Path.bracketStep, Path.readIndex, Admits]

theorem errorClass_of_readSteps {cs : List Char} {f : FormatFault}
    (h : (Path.readSteps cs).2 = some f) : f.errorClass ≠ .unsupportedMode := by
  have inner (cs : List Char) : Admits true FormatFault.errorClass (Path.bracketStep cs) :=
    bracketStep_admits cs
  fun_induction Path.readSteps cs <;> grind [Path.consStep, Admits]

/-- A field's name is a path, or there is a fault in its start or behind its steps. -/
theorem ofChars_admits (name : List Char) :
    Admits allowed FormatFault.errorClass (Path.ofChars name) ∧
      ∀ path f, Path.ofChars name = .ok path → path.fault = some f →
        f.errorClass ≠ .unsupportedMode := by
  have index (n : Nat) (cs : List Char) :
      Admits allowed FormatFault.errorClass (Path.readIndexFrom n cs) := by
    fun_induction Path.readIndexFrom n cs <;> grind
  have steps := @errorClass_of_readSteps
  constructor <;> grind [Path.ofChars, Path.readIndex, Admits]

theorem start_admits (args : Arguments) (head : Head) (numbering : Numbering) :
    Admits allowed FormatFault.errorClass (args.start head numbering) := by
  unfold Arguments.start Arguments.atPosition Arguments.ofName
  grind

/-- The value of a field's name. -/
theorem find_asks (args : Arguments) (name : List Char) (numbering : Numbering) :
    Asks allowed FormatFault.errorClass (args.find name numbering) := by
  obtain ⟨hadmits, hfault⟩ := @ofChars_admits allowed name
  refine Asks.ofExcept_bind hadmits (fun _ => rfl) fun path hpath => ?_
  refine Asks.ofExcept_bind (start_admits args path.head numbering) (fun _ => rfl) fun (v, n) _ => ?_
  have hclass := fun f => hfault path f hpath
  grind

/-! ## Writing values -/

section Present

attribute [local grind ←] Admits.of_ne

@[local grind ←] theorem readCount_admits (cs : List Char) :
    Admits allowed FormatFault.errorClass (Spec.readCount cs) := by
  have count (n : Nat) : Admits allowed FormatFault.errorClass (Spec.readCountFrom n cs) := by
    fun_induction Spec.readCountFrom n cs <;> grind
  grind [Spec.readCount]

@[local grind ←] theorem specOfChars_admits (typeName : String) (code : Option Char)
    (align : Align) (cs : List Char) :
    Admits allowed FormatFault.errorClass (Spec.ofChars typeName code align cs) := by
  have separator (cs : List Char) :
      Admits allowed FormatFault.errorClass (Spec.readSeparator cs) := by
    fun_cases Spec.readSeparator cs <;> grind
  have precision (cs : List Char) :
      Admits allowed FormatFault.errorClass (Spec.readPrecision cs) := by
    fun_cases Spec.readPrecision cs <;> grind [Admits]
  have check (s : Spec) : Admits allowed FormatFault.errorClass (Spec.checkSeparator s) := by
    grind [Spec.checkSeparator]
  unfold Spec.ofChars
  grind

@[local grind ←] theorem presentText_admits (s : String) (spec : List Char) :
    Admits allowed FormatFault.errorClass (presentText s spec) := by
  unfold presentText
  grind

@[local grind ←] theorem writeDouble_admits (spec : Spec) (typeName : String) (x : Double) :
    Admits allowed FormatFault.errorClass (writeDouble spec typeName x) := by
  unfold writeDouble
  grind

@[local grind ←] theorem presentInt_admits (typeName : String) (i : Int) (spec : List Char) :
    Admits allowed FormatFault.errorClass (presentInt typeName i spec) := by
  unfold presentInt writeChar charOfCode
  grind

@[local grind ←] theorem checkText_admits (v : Value) (shown : String) :
    Admits allowed FormatFault.errorClass ((v.checkText shown).mapError .access) :=
  (Admits.of_ne AccessError.errorClass_ne _).mapError fun _ => rfl

/-- A value that does not fit its specification is no refusal. -/
theorem present_admits (v : Value) (spec : List Char) :
    Admits allowed FormatFault.errorClass (v.present spec) := by
  unfold Value.present presentDouble presentComplex
  grind

end Present

theorem filling_asks {α : Type} {r : Except FormatFault α}
    (h : Admits allowed FormatFault.errorClass r) :
    Asks allowed TemplateError.errorClass (Filling.ofExcept r) :=
  .ofExcept h fun _ => rfl

/-- A way of writing values that does no more in its context than ask for the settings. -/
structure Writer.Asks (allowed : Bool) (w : Writer) : Prop where
  present : ∀ v spec, Sgr.Asks allowed TemplateError.errorClass (w.present v spec)
  own : ∀ v, Sgr.Asks allowed TemplateError.errorClass (w.own v)

variable {w : Writer} {args : Arguments}

theorem convert_asks (hw : w.Asks allowed) (conversion : Option Char) (v : Value) :
    Asks allowed TemplateError.errorClass (w.convert conversion v) := by
  have own := hw.own v
  have shown : Asks allowed TemplateError.errorClass (Writer.convert.shown v) :=
    filling_asks (checkText_admits v v.repr)
  unfold Writer.convert
  grind [TemplateError.errorClass]

/-- The text of a field, given what its specification becomes. -/
theorem fillField_asks (hw : w.Asks allowed) {expand : Expand}
    (hexpand : ∀ spec n, Asks allowed TemplateError.errorClass (expand spec n)) (f : Field)
    (n : Numbering) : Asks allowed TemplateError.errorClass (fillField w args expand f n) := by
  have value : Asks allowed TemplateError.errorClass ((args.find f.name n).mapError .fault) :=
    (find_asks args f.name n).mapError fun _ => id
  have convert := convert_asks hw f.conversion
  have present := hw.present
  unfold fillField
  grind

theorem fillPieces_asks (hw : w.Asks allowed) {expand : Expand}
    (hexpand : ∀ spec n, Asks allowed TemplateError.errorClass (expand spec n)) (ps : List Piece)
    (n : Numbering) : Asks allowed TemplateError.errorClass (fillPieces w args expand ps n) := by
  induction ps generalizing n with
  | nil => exact .pure ([], n)
  | cons p ps ih =>
    cases p with
    | char c => exact (ih n).bind fun _ => .pure _
    | field f =>
      exact (fillField_asks hw hexpand f n).bind fun (_, n) => (ih n).bind fun _ => .pure _

theorem errorClass_of_ofChars {template : List Char} {f : FormatFault}
    (h : (Script.ofChars template).fault = some f) : f.errorClass ≠ .unsupportedMode := by
  have field := @Field.errorClass_of_read
  fun_induction Script.ofChars template <;> grind [Script.cons, Script.failed]

theorem fillScript_asks (hw : w.Asks allowed) {expand : Expand}
    (hexpand : ∀ spec n, Asks allowed TemplateError.errorClass (expand spec n))
    (template : List Char) (n : Numbering) :
    Asks allowed TemplateError.errorClass (fillScript w args expand (.ofChars template) n) := by
  have pieces (ps : List Piece) := @fillPieces_asks allowed w args hw expand hexpand ps
  have fault := @errorClass_of_ofChars template
  unfold fillScript
  grind [TemplateError.errorClass]

/-- The text of a template, given how values are written. -/
theorem fill_asks (hw : w.Asks allowed) (template : List Char) :
    Asks allowed TemplateError.errorClass (fill w args template) := by
  have nested (spec : List Char) (n : Numbering) :
      Asks allowed TemplateError.errorClass (fillSpec w args spec n) :=
    fillScript_asks hw (fun _ _ => by grind [TemplateError.errorClass]) spec n
  have script (n : Numbering) : Asks allowed TemplateError.errorClass
      (fillScript w args (fillSpec w args) (.ofChars template) n) :=
    fillScript_asks hw nested template n
  unfold fill
  grind

/-! ## Deferred texts -/

/-- Naming the template makes no failure a refusal. -/
theorem errorClass_of_within {template : String} {e : TemplateError}
    (h : (e.within template).errorClass = .unsupportedMode) : e.errorClass = .unsupportedMode := by
  cases e <;> grind [TemplateError.within, TemplateError.errorClass]

theorem ofParts_admits (args named : Value) :
    Admits allowed FormatFault.errorClass (Arguments.ofParts args named) := by
  unfold Arguments.ofParts
  grind

variable {render : String → Arguments → Filling String}

theorem renderParts_asks (h : ∀ t args, Asks allowed TemplateError.errorClass (render t args))
    (template args named : Value) :
    Asks allowed TemplateError.errorClass (renderParts render template args named) := by
  have parts (f : FormatFault) (hf : Arguments.ofParts args named = .error f) :
      f.errorClass ≠ .unsupportedMode := fun hclass => by
    cases @ofParts_admits true args named f hf hclass
  have within := @errorClass_of_within
  unfold renderParts
  grind [TemplateError.errorClass]

theorem writerFor_asks (h : ∀ t args, Asks allowed TemplateError.errorClass (render t args)) :
    (writerFor render).Asks allowed := by
  have parts := renderParts_asks h
  constructor
  · intro v spec
    have text (s : String) := filling_asks (@presentText_admits allowed s spec)
    have present := filling_asks (@present_admits allowed v spec)
    simp only [writerFor]
    grind
  · intro v
    have shown := filling_asks (@checkText_admits allowed v v.str)
    simp only [writerFor]
    grind

theorem renderAt_asks (depth : Nat) (template : String) (args : Arguments) :
    Asks allowed TemplateError.errorClass (renderAt depth template args) := by
  induction depth generalizing template args with
  | zero => grind [renderAt, TemplateError.errorClass]
  | succ depth ih =>
    have filled : Asks allowed TemplateError.errorClass
        ((fill (writerFor (renderAt depth)) args template.toList).mapError (·.within template)) :=
      (fill_asks (writerFor_asks ih) template.toList).mapError fun _ => errorClass_of_within
    unfold renderAt
    grind

/-- Filling a template does no more in its context than ask for the settings. -/
theorem renderTemplate_asks (template : String) (args : Arguments) :
    Asks allowed TemplateError.errorClass (renderTemplate template args) :=
  renderAt_asks _ template args

/-- So does rendering a value. -/
theorem render_asks (v : Value) : Asks allowed TemplateError.errorClass v.render :=
  (writerFor_asks (renderAt_asks v.depth)).own v

end Sgr
