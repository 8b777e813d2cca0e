import Sgr.Proofs.Ending
import Sgr.Proofs.Template.Field

/-!
# Templates whose arguments are texts

A template that is filled with texts has few ways to fail. It may be malformed, it may name an
argument that is not there, it may ask for a character that a text does not have, and a
specification may not fit texts. All of these are reported as failures of the template as a whole. A
key in brackets that is no number is a wrong type, and a text has no members, so a field that steps
into one lacks it. Nothing else can happen.

## Main definitions

* `templateHasMember` — whether a field of a template steps into a member.
* `FormatFault.IsTextual` — the faults of templates that are filled with texts.

## Main statements

* `presentText_ends`, `find_ends` — writing a text, and finding one for a field.
* `fill_ends` — filling a template with texts.
* `renderTemplate_ends` — the text of such a template, or its failure.
-/

namespace Sgr

/-! ## Steps into members -/

/-- Whether a step is one into a member. -/
def Step.isMember : Step → Bool
  | member _ => true
  | _ => false

/-- Whether the name of a field has such a step. -/
def nameHasMember (name : List Char) : Bool :=
  match Path.ofChars name with
  | .ok path => path.steps.any Step.isMember
  | .error _ => false

/-- Whether a field of a script has one, or else its specification. -/
def Script.hasMember (nested : List Char → Bool) (s : Script) : Bool :=
  s.pieces.any fun p => match p with
    | .char _ => false
    | .field f => nameHasMember f.name || f.isNested && nested f.spec

/-- Whether a specification has one. Its fields have no specifications with fields. -/
def specHasMember (spec : List Char) : Bool :=
  (Script.ofChars spec).hasMember fun _ => false

/-- Whether a template has one. -/
def templateHasMember (template : List Char) : Bool :=
  (Script.ofChars template).hasMember specHasMember

/-! ## Wrong values -/

/-- A fault that is a wrong value. -/
def FormatFault.IsWrongValue (f : FormatFault) : Prop :=
  f.errorClass = .wrongValue

section WrongValues

open FormatFault (IsWrongValue)

theorem readCountFrom_ends (n : Nat) (cs : List Char) :
    Ends (fun _ => True) IsWrongValue (Spec.readCountFrom n cs) := by
  induction cs generalizing n with
  | nil => trivial
  | cons c cs ih =>
    rw [Spec.readCountFrom]
    split
    · trivial
    · split
      · rfl
      · exact ih _

theorem readCount_ends (cs : List Char) :
    Ends (fun _ => True) IsWrongValue (Spec.readCount cs) := by
  unfold Spec.readCount
  split
  · trivial
  · exact (readCountFrom_ends 0 cs).map fun _ _ => trivial

theorem readSeparator_ends (cs : List Char) :
    Ends (fun _ => True) IsWrongValue (Spec.readSeparator cs) := by
  unfold Spec.readSeparator
  split <;> trivial

theorem readPrecision_ends (cs : List Char) :
    Ends (fun _ => True) IsWrongValue (Spec.readPrecision cs) := by
  unfold Spec.readPrecision
  split
  · next r =>
    have hcount := readCount_ends r
    split
    · next hr =>
      rw [hr] at hcount
      exact hcount
    · rfl
    · trivial
  · trivial

theorem checkSeparator_ends (s : Spec) :
    Ends (fun _ => True) IsWrongValue s.checkSeparator := by
  unfold Spec.checkSeparator
  split
  · trivial
  · split
    · trivial
    · rfl

theorem specOfChars_ends (typeName : String) (code : Option Char) (align : Align)
    (cs : List Char) :
    Ends (fun _ => True) IsWrongValue (Spec.ofChars typeName code align cs) := by
  unfold Spec.ofChars
  refine (readCount_ends _).bind fun (width, rest) _ => ?_
  refine (readSeparator_ends rest).bind fun (separator, rest) _ => ?_
  refine (readPrecision_ends rest).bind fun (precision, rest) _ => ?_
  dsimp only
  split
  · exact checkSeparator_ends _
  · exact checkSeparator_ends _
  · rfl

/-- A specification that does not fit a text is a wrong value. -/
theorem presentText_ends (s : String) (spec : List Char) :
    Ends (fun _ => True) IsWrongValue (presentText s spec) := by
  unfold presentText
  split
  · trivial
  · refine (specOfChars_ends "str" (some 's') .left spec).bind fun spec _ => ?_
    exact .refuse rfl <| .refuse rfl <| .refuse rfl <| .refuse rfl <| .refuse rfl <|
      .refuse rfl trivial

/-! ## Paths -/

theorem readIndex_ends (cs : List Char) :
    Ends (fun _ => True) IsWrongValue (Path.readIndex cs) := by
  have hfrom (n : Nat) : Ends (fun _ => True) IsWrongValue (Path.readIndexFrom n cs) := by
    induction cs generalizing n with
    | nil => trivial
    | cons c cs ih =>
      rw [Path.readIndexFrom]
      split
      · trivial
      · exact .refuse rfl (ih _)
  unfold Path.readIndex
  split
  · trivial
  · exact hfrom 0

theorem bracketStep_ends (inner : List Char) :
    Ends (fun s => s.isMember = false) IsWrongValue (Path.bracketStep inner) := by
  have hindex := readIndex_ends inner
  unfold Path.bracketStep
  split
  · next f hf =>
    rw [hf] at hindex
    exact hindex
  · rfl
  · exact .refuse rfl rfl

/-- A fault behind the steps of a path is a wrong value. -/
theorem isWrongValue_of_readSteps {cs : List Char} {f : FormatFault}
    (h : (Path.readSteps cs).2 = some f) : f.IsWrongValue := by
  induction cs using Path.readSteps.induct with
  | case1 =>
    rw [Path.readSteps] at h
    cases h
  | case2 r hr =>
    rw [Path.readSteps, if_pos hr] at h
    cases h
    rfl
  | case3 r hr _ ih =>
    rw [Path.readSteps, if_neg hr] at h
    exact ih h
  | case4 r hr =>
    rw [Path.readSteps] at h
    split at h
    · cases h
      rfl
    · next hr' =>
      rw [hr] at hr'
      cases hr'
  | case5 r _ rest hr _ g hg =>
    have hstep := bracketStep_ends (r.takeWhile (· ≠ ']'))
    rw [hg] at hstep
    rw [Path.readSteps] at h
    split at h
    · next hr' =>
      rw [hr] at hr'
      cases hr'
    · rw [hg] at h
      cases h
      exact hstep
  | case6 r _ rest hr _ step hstep ih =>
    rw [Path.readSteps] at h
    split at h
    · next hr' =>
      rw [hr] at hr'
      cases hr'
    · next hr' =>
      rw [hr] at hr'
      cases hr'
      rw [hstep] at h
      exact ih h
  | case7 c r hdot hbracket =>
    rw [Path.readSteps] at h
    · cases h
      rfl
    · exact hdot
    · exact hbracket

/-- The path of a field's name steps into a member if the name does. -/
theorem ofChars_ends (name : List Char) :
    Ends (fun path : Path => (∀ f ∈ path.fault, f.IsWrongValue) ∧
      path.steps.any Step.isMember = nameHasMember name) IsWrongValue (Path.ofChars name) := by
  have hindex := readIndex_ends (name.takeWhile (!Path.endsName ·))
  refine .of_forall (fun path hpath => ⟨fun f hf => ?_, ?_⟩) fun f hf => ?_
  · rw [Path.ofChars] at hpath
    split at hpath
    · cases hpath
    · cases hpath
      exact isWrongValue_of_readSteps hf
  · rw [nameHasMember, hpath]
  · rw [Path.ofChars] at hf
    split at hf
    · next g hg =>
      rw [hg] at hindex
      cases hf
      exact hindex
    · cases hf

end WrongValues

/-! ## Finding texts -/

/-- The faults of templates that are filled with texts. A member is missing only if templates may
step into members. -/
def FormatFault.IsTextual (members : Bool) (f : FormatFault) : Prop :=
  f.isMismatch ∨ f.errorClass = .wrongType ∨ members ∧ f.errorClass = .noAttribute

theorem FormatFault.IsWrongValue.isTextual {f : FormatFault} (h : f.IsWrongValue)
    (members : Bool) : f.IsTextual members := by
  have hmismatch : f.isMismatch := by
    rw [isMismatch, show f.errorClass = .wrongValue from h]
  exact .inl hmismatch

/-- A text or a sigil. -/
def Value.IsText (v : Value) : Prop :=
  v.text?.isSome

variable {members : Bool} {v : Value}

/-- The items of a text are its characters. -/
theorem item_ends (h : v.IsText) (key : Value) :
    Ends Value.IsText (fun e => (FormatFault.access e).IsTextual members) (v.item key) := by
  have hitem (s : String) (i : Int) : Ends Value.IsText
      (fun e => (FormatFault.access e).IsTextual members)
      (Value.itemAt "string " (Value.characters s) i) := by
    unfold Value.itemAt
    refine .refuse (.inl rfl) ?_
    split
    · next u hu =>
      obtain ⟨n, -, hn⟩ := Option.bind_eq_some_iff.mp hu
      obtain ⟨c, -, rfl⟩ := List.mem_map.mp (List.mem_of_getElem? hn)
      rfl
    · exact .inl rfl
  cases v with
  | text s | sigil s =>
    unfold Value.item
    rcases hkey : key.int? with _ | i
    · exact .inr (.inl rfl)
    · exact hitem _ i
  | _ => cases h

theorem getMember_ends (h : v.IsText) (name : String) (hmembers : members) :
    Ends Value.IsText (fun e => (FormatFault.access e).IsTextual members) (v.getMember name) := by
  cases v with
  | text s | sigil s => exact .inr (.inr ⟨hmembers, rfl⟩)
  | _ => cases h

/-- A step from a text leads to one of its characters. -/
theorem step_ends (h : v.IsText) {s : Step} (hs : s.isMember → members) :
    InContext.Ends Value.IsText (FormatFault.IsTextual members) (v.step s) := by
  have hbracket (key : Value) :
      InContext.Ends Value.IsText (FormatFault.IsTextual members) (v.bracket key) := by
    have htool : v.tool? = none := by cases v <;> first | rfl | cases h
    have hparts : v.brushParts? = none := by cases v <;> first | rfl | cases h
    rw [Value.bracket, htool, hparts]
    exact .ofExcept (item_ends h key) fun _ he => he
  cases s with
  | member name => exact .ofExcept (getMember_ends h name (hs rfl)) fun _ he => he
  | index i => exact hbracket _
  | key s => exact hbracket _

theorem walk_ends (h : v.IsText) {steps : List Step} (hsteps : steps.any Step.isMember → members) :
    InContext.Ends Value.IsText (FormatFault.IsTextual members) (v.walk steps) := by
  induction steps generalizing v with
  | nil => exact .pure h
  | cons s ss ih =>
    rw [List.any_cons, Bool.or_eq_true] at hsteps
    refine (step_ends h fun hs => hsteps (.inl hs)).bind fun u hu => ?_
    exact ih hu fun hss => hsteps (.inr hss)

/-- All values are texts. Sigils are texts as well. -/
def AllTexts (vs : List Value) : Prop :=
  ∀ v ∈ vs, v.text?.isSome

/-- Arguments that are texts. -/
structure Arguments.AreTexts (args : Arguments) : Prop where
  positional : AllTexts args.positional
  named : args.named = []

variable {args : Arguments}

theorem start_ends (h : args.AreTexts) (head : Head) (numbering : Numbering) :
    Ends (fun r => r.1.IsText) (FormatFault.IsTextual members) (args.start head numbering) := by
  have hposition (i : Nat) :
      Ends Value.IsText (FormatFault.IsTextual members) (args.atPosition i) := by
    unfold Arguments.atPosition
    split
    · next hv => exact h.positional _ (List.mem_of_getElem? hv)
    · exact .inl rfl
  have hname (s : String) : Ends Value.IsText (FormatFault.IsTextual members) (args.ofName s) := by
    rw [Arguments.ofName, h.named]
    exact .inl rfl
  unfold Arguments.start
  split
  · exact (hposition _).map fun _ hv => hv
  · exact (hposition _).map fun _ hv => hv
  · exact .inl rfl
  · exact .inl rfl
  · exact (hposition _).map fun _ hv => hv
  · exact (hname _).map fun _ hv => hv

/-- What a field finds among texts is a text. -/
theorem find_ends (h : args.AreTexts) {name : List Char} (hname : nameHasMember name → members)
    (numbering : Numbering) :
    InContext.Ends (fun r => r.1.IsText) (FormatFault.IsTextual members)
      (args.find name numbering) := by
  refine (InContext.Ends.ofExcept (ofChars_ends name) fun _ hf => hf.isTextual members).bind
    fun path ⟨hfault, hsteps⟩ => ?_
  refine (InContext.Ends.ofExcept (start_ends h path.head numbering) fun _ hf => hf).bind
    fun (v, n) hv => ?_
  refine (walk_ends hv fun hmember => hname (hsteps ▸ hmember)).bind fun u hu => ?_
  split
  · next f hf => exact .throw ((hfault f hf).isTextual members)
  · exact .pure hu

/-! ## Filling -/

/-- The failures of a template that is filled with texts, before they name the template. -/
def TemplateError.IsTextualFault (members : Bool) (e : TemplateError) : Prop :=
  ∃ f : FormatFault, e = .fault f ∧ f.IsTextual members

theorem FormatFault.IsWrongValue.isTextualFault {f : FormatFault} (h : f.IsWrongValue) :
    (TemplateError.fault f).IsTextualFault members :=
  ⟨f, rfl, h.isTextual members⟩

/-- A way of writing that fails on texts only where a specification does not fit. -/
structure Writer.EndsOnTexts (w : Writer) (members : Bool) : Prop where
  present : ∀ v spec, v.IsText →
    InContext.Ends (fun _ => True) (TemplateError.IsTextualFault members) (w.present v spec)
  own : ∀ v, v.IsText →
    InContext.Ends (fun _ => True) (TemplateError.IsTextualFault members) (w.own v)

/-- A text always has a text to show. -/
theorem checkText_ends (h : v.IsText) (s : String) {E : FormatFault → Prop} :
    Ends (fun _ => True) E ((v.checkText s).mapError .access) := by
  cases v with
  | text | sigil => trivial
  | _ => cases h

theorem writerFor_endsOnTexts (render : String → Arguments → Filling String) :
    (writerFor render).EndsOnTexts members where
  present v spec h := by
    cases v with
    | text s => exact .ofExcept (presentText_ends s spec) fun _ hf => hf.isTextualFault
    | sigil s => exact .ofExcept (presentText_ends s.text spec) fun _ hf => hf.isTextualFault
    | _ => cases h
  own v h := by
    have hshown : Ends (fun _ => True) FormatFault.IsWrongValue
        ((v.checkText v.str).mapError .access) := checkText_ends h _
    cases v with
    | text | sigil => exact .ofExcept hshown fun _ hf => hf.isTextualFault
    | _ => cases h

variable {w : Writer}

theorem convert_ends (hw : w.EndsOnTexts members) (conversion : Option Char) (h : v.IsText) :
    InContext.Ends Value.IsText (TemplateError.IsTextualFault members)
      (w.convert conversion v) := by
  have hshown : InContext.Ends (fun _ => True) (TemplateError.IsTextualFault members)
      (Writer.convert.shown v) :=
    .ofExcept (checkText_ends (E := FormatFault.IsWrongValue) h v.repr) fun _ hf =>
      hf.isTextualFault
  unfold Writer.convert
  split
  · exact .pure h
  · split
    · exact hshown.bind fun _ _ => .pure rfl
    · split
      · exact (hw.own v h).bind fun _ _ => .pure rfl
      · split
        · exact hshown.bind fun _ _ => .pure rfl
        · exact .throw ⟨_, rfl, .inl rfl⟩

section Filling

variable {expand : Expand} {nested : List Char → Bool} (hw : w.EndsOnTexts members)
  (hargs : args.AreTexts)
  (hexpand : ∀ spec n, (nested spec → members) →
    InContext.Ends (fun _ => True) (TemplateError.IsTextualFault members) (expand spec n))

include hw hargs hexpand

/-- The text of a field, given what its specification becomes. -/
theorem fillField_ends {f : Field}
    (hf : (nameHasMember f.name || f.isNested && nested f.spec) → members) (n : Numbering) :
    InContext.Ends (fun _ => True) (TemplateError.IsTextualFault members)
      (fillField w args expand f n) := by
  rw [Bool.or_eq_true] at hf
  refine ((find_ends hargs (fun hn => hf (.inl hn)) n).mapError fun g hg => ⟨g, rfl, hg⟩).bind
    fun (v, n) hv => ?_
  refine (convert_ends hw f.conversion hv).bind fun u hu => ?_
  have hpresent (spec : List Char) (n : Numbering) :
      InContext.Ends (fun _ => True) (TemplateError.IsTextualFault members)
        (do return ((← w.present u spec).toList, n)) :=
    (hw.present u spec hu).bind fun _ _ => .pure trivial
  dsimp only
  split
  · next hnested =>
    have hspec (h : nested f.spec) : members = true := hf (.inr (by rw [hnested, h]; rfl))
    exact (hexpand f.spec n hspec).bind fun (spec, n) _ => hpresent spec n
  · exact hpresent f.spec n

/-- The text of a script, whose fault is a wrong value if it has one. -/
theorem fillScript_ends {s : Script} (hs : s.hasMember nested → members)
    (hfault : ∀ f ∈ s.fault, f.IsWrongValue) (n : Numbering) :
    InContext.Ends (fun _ => True) (TemplateError.IsTextualFault members)
      (fillScript w args expand s n) := by
  have hpieces {ps : List Piece} (hps : Script.hasMember nested ⟨ps, none⟩ → members)
      (n : Numbering) : InContext.Ends (fun _ => True) (TemplateError.IsTextualFault members)
        (fillPieces w args expand ps n) := by
    induction ps generalizing n with
    | nil => exact .pure trivial
    | cons p ps ih =>
      rw [Script.hasMember, List.any_cons, Bool.or_eq_true] at hps
      have hrest := ih fun h => hps (.inr h)
      cases p with
      | char c => exact (hrest n).bind fun _ _ => .pure trivial
      | field f =>
        exact (fillField_ends hw hargs hexpand (fun h => hps (.inl h)) n).bind fun (_, n) _ =>
          (hrest n).bind fun _ _ => .pure trivial
  refine (hpieces hs n).bind fun filled _ => ?_
  split
  · next f hf => exact .throw (hfault f hf).isTextualFault
  · exact .pure trivial

end Filling

theorem isWrongValue_of_ofChars {template : List Char} {f : FormatFault}
    (h : f ∈ (Script.ofChars template).fault) : f.IsWrongValue := by
  induction template using Script.ofChars.induct with
  | case1 =>
    rw [Script.ofChars] at h
    cases h
  | case2 =>
    rw [Script.ofChars] at h
    cases h
    rfl
  | case3 r ih | case4 r ih =>
    rw [Script.ofChars] at h
    exact ih h
  | case5 r hr =>
    rw [Script.ofChars] at h
    · cases h
      rfl
    · exact hr
  | case6 r hnil hopen g hread =>
    rw [Script.ofChars] at h
    · split at h
      · next g' hread' =>
        cases h
        exact Field.errorClass_of_read hread'
      · simp_all
    · exact hnil
    · exact hopen
  | case7 r hnil hopen g rest hread _ ih =>
    rw [Script.ofChars] at h
    · split at h
      · simp_all
      · next hread' =>
        rw [hread] at hread'
        cases hread'
        exact ih h
    · exact hnil
    · exact hopen
  | case8 c r h₁ h₂ h₃ hclose hopen ih =>
    rw [Script.ofChars] at h
    · exact ih h
    all_goals assumption

/-- Filling a template with texts. -/
theorem fill_ends (hw : w.EndsOnTexts members) (hargs : args.AreTexts) {template : List Char}
    (h : templateHasMember template → members) :
    InContext.Ends (fun _ => True) (TemplateError.IsTextualFault members)
      (fill w args template) := by
  have hnested (spec : List Char) (n : Numbering) (hspec : specHasMember spec → members) :
      InContext.Ends (fun _ => True) (TemplateError.IsTextualFault members)
        (fillSpec w args spec n) :=
    fillScript_ends hw hargs (fun _ _ _ => .throw ⟨_, rfl, .inl rfl⟩) hspec
      (fun _ => isWrongValue_of_ofChars) n
  exact (fillScript_ends hw hargs hnested h (fun _ => isWrongValue_of_ofChars) .unset).bind
    fun _ _ => .pure trivial

/-- The class of a failure of a template that is filled with texts. -/
def ErrorClass.IsTextual (members : Bool) (c : ErrorClass) : Prop :=
  c = .grammar ∨ c = .wrongType ∨ members ∧ c = .noAttribute

/-- A template that is filled with texts fails as one of the whole, for a wrong type, or for a
missing member, and for that only if a field steps into a member. -/
theorem renderTemplate_ends (hargs : args.AreTexts) {template : String}
    (h : templateHasMember template.toList → members) :
    InContext.Ends (fun _ => True) (fun e => e.errorClass.IsTextual members)
      (renderTemplate template args) := by
  have hwithin (e : TemplateError) (he : e.IsTextualFault members) :
      (e.within template).errorClass.IsTextual members := by
    obtain ⟨f, rfl, hf⟩ := he
    by_cases hmismatch : f.isMismatch
    · rw [TemplateError.within, if_pos hmismatch]
      exact .inl rfl
    · rw [TemplateError.within, if_neg hmismatch]
      exact .inr (hf.resolve_left hmismatch)
  refine InContext.Ends.bind (P := fun _ => True) ?_ fun _ _ => .pure trivial
  exact (fill_ends (writerFor_endsOnTexts _) hargs h).mapError hwithin

end Sgr
