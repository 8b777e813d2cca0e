import Sgr.Proofs.Brush.Call
import Sgr.Proofs.Template.Asking

/-!
# Styling asks for the settings

A styling call is told whether constant text is allowed. It gives constant text only if it is, and
refuses to give it only if it is not, or if a template of the call steps into a brush by a key that
the settings refuse. Otherwise a call does no more in its context than ask for the settings.

## Main statements

* `wrap_asks` — content between sequences.
* `BrushParts.style_asks`, `BrushParts.call_asks`, `Tool.call_asks` — styling calls.
* `BrushParts.style_constText`, `BrushParts.call_constText`, `Tool.call_constText` — constant text
  is only made where it is allowed.
-/

namespace Sgr

variable {allowed : Bool} {store : Store} {output : OutputMode} {c c' : Context} {s : String}

/-! ## Content -/

theorem KindError.errorClass_ne (e : KindError) : e.errorClass ≠ .unsupportedMode := by
  cases e <;> grind [errorClass]

/-- The class of a failed request. -/
def RequestError.errorClass (e : RequestError) : ErrorClass :=
  e.failure.errorClass

@[local grind =] theorem errorClass_content (e : ContentError) :
    (RequestError.content e).errorClass = .contentType := rfl

@[local grind =] theorem errorClass_binding (e : BindingError) :
    (RequestError.binding e).errorClass = .wrongType := rfl

theorem renderTemplate_asks_request (template : String) (args : Arguments) :
    Asks allowed RequestError.errorClass ((renderTemplate template args).mapError .template) :=
  (renderTemplate_asks template args).mapError fun _ => id

theorem formatConstant_asks (template : Value) (args : Arguments) :
    Asks allowed RequestError.errorClass (formatConstant template args) := by
  have filled (t : String) := @renderTemplate_asks_request allowed t args
  unfold formatConstant
  grind

theorem assemble_asks (opening closing : List Char) (content : Content) :
    Asks allowed RequestError.errorClass (assemble store opening closing content output) := by
  have parts (vs : List Value) :
      Asks allowed RequestError.errorClass (InContext.ofExcept .content (literalText vs)) :=
    .ofExcept (.of_ne (fun _ => by simp [RequestError.errorClass, RequestError.failure,
      Failure.errorClass]) _) fun _ => rfl
  have constant (template : Value) (args : Arguments) :=
    @formatConstant_asks allowed template args
  have filled (t : String) (args : Arguments) := @renderTemplate_asks_request allowed t args
  unfold assemble
  grind

/-- Content between the sequences of a resolution. -/
theorem wrap_asks (r : Resolution) (content : Content) :
    Asks allowed Failure.errorClass
      ((r.wrap store content output).mapError RequestError.failure) :=
  (assemble_asks r.opening r.closing content).mapError fun _ => id

/-- Constant text is what its output mode gives, and no other. -/
theorem wrap_constText {r : Resolution} {content : Content}
    (h : (r.wrap store content output).run.run c = (.ok (.constText s), c')) :
    output = .constFormat := by
  unfold Resolution.wrap assemble at h
  split at h
  · obtain ⟨_, _, -, h⟩ := exists_of_run_bind h
    cases h
  · cases h
  · cases h
  · split at h
    · cases h
    · split at h
      · cases h
      · rfl
      · obtain ⟨_, _, -, h⟩ := exists_of_run_bind h
        cases h

/-! ## Calls -/

@[grind =] theorem Failure.errorClass_call (e : CallError) :
    (Failure.call e).errorClass = e.errorClass := rfl

@[grind =] theorem CallError.errorClass_eq_unsupportedMode (e : CallError) :
    e.errorClass = .unsupportedMode ↔ e = .constFormatDisabled := by
  cases e <;> simp [errorClass]

theorem ofTokens_admits (output : OutputMode) (tokens : List Value)
    (named : List (String × Value)) :
    Admits allowed CallError.errorClass (Content.ofTokens output tokens named) := by
  unfold Content.ofTokens
  grind [CallError.errorClass]

namespace BrushParts

theorem resolve_admits (p : BrushParts) (revert : Option RevertMode) :
    Admits allowed Failure.errorClass (p.resolve revert) := by
  have kinds : Admits allowed Failure.errorClass (p.kindValues.mapError .bracket) :=
    (kindValues_admits p).mapError fun _ => rfl
  have resolution (vs : List Value) : Admits allowed Failure.errorClass
      ((Resolution.ofValues vs (revert.getD p.ownRevert)).mapError .kind) :=
    (Admits.of_ne KindError.errorClass_ne _).mapError fun _ => rfl
  exact kinds.bind resolution

/-- Styling content under given modes. -/
theorem style_asks (p : BrushParts) {constFormat : Bool} {modes : Modes}
    (h : modes.output = .constFormat → constFormat = false → allowed = false)
    (tokens : List Value) (named : List (String × Value)) :
    Asks allowed Failure.errorClass (p.style store constFormat modes tokens named) := by
  have content : Asks allowed Failure.errorClass
      (InContext.ofExcept .call (Content.ofTokens modes.output tokens named)) :=
    .ofExcept (ofTokens_admits _ _ _) fun _ => rfl
  have resolution : Asks allowed Failure.errorClass
      (InContext.ofExcept id (p.resolve (some modes.revert))) :=
    .ofExcept (p.resolve_admits _) fun _ => rfl
  have wrapped (r : Resolution) (content : Content) :=
    @wrap_asks allowed store modes.output r content
  unfold style
  grind [Refuses]

/-- Constant text is only made in its output mode, and where it is allowed. -/
theorem style_constText {p : BrushParts} {constFormat : Bool} {modes : Modes} {tokens : List Value}
    {named : List (String × Value)}
    (h : (p.style store constFormat modes tokens named).run.run c = (.ok (.constText s), c')) :
    modes.output = .constFormat ∧ constFormat = true := by
  unfold style at h
  split at h
  · cases h
  · next hallowed =>
    obtain ⟨_, _, -, h⟩ := exists_of_run_bind h
    obtain ⟨_, _, -, h⟩ := exists_of_run_bind h
    have houtput := wrap_constText (InContext.run_of_mapError h)
    exact ⟨houtput, by simpa [houtput] using hallowed⟩

/-- Styling content under the modes of leading sigils. -/
theorem call_asks (p : BrushParts) (tokens : List Value) (named : List (String × Value)) :
    Asks allowed Failure.errorClass (p.call store allowed tokens named) := by
  have leading : Asks allowed Failure.errorClass
      (InContext.ofExcept .sigil (Leading.read allowed tokens)) :=
    .ofExcept (read_admits tokens) fun _ => rfl
  have modes : Asks allowed Failure.errorClass (InContext.ofExcept .access p.ownModes) :=
    .ofExcept (.of_ne AccessError.errorClass_ne _) fun _ => rfl
  have style (modes : Modes) (tokens : List Value) :
      Asks allowed Failure.errorClass (p.style store allowed modes tokens named) :=
    p.style_asks (fun _ h => h) tokens named
  unfold call
  grind

theorem call_constText {p : BrushParts} {constFormat : Bool} {tokens : List Value}
    {named : List (String × Value)}
    (h : (p.call store constFormat tokens named).run.run c = (.ok (.constText s), c')) :
    constFormat = true := by
  obtain ⟨leading, _, -, h⟩ := exists_of_run_bind h
  split at h
  · obtain ⟨modes, _, -, h⟩ := exists_of_run_bind h
    exact (style_constText h).2
  · exact (style_constText h).2

end BrushParts

namespace ColorFamily

/-- A call of a family, whose parameters make the brush. -/
theorem call_asks (f : ColorFamily) (tokens : List Value) (named : List (String × Value)) :
    Asks allowed Failure.errorClass (f.call store allowed tokens named) := by
  have leading : Asks allowed Failure.errorClass
      (InContext.ofExcept .sigil (Leading.read allowed tokens)) :=
    .ofExcept (read_admits tokens) fun _ => rfl
  have bound (params : List Value) : Asks allowed Failure.errorClass
      (InContext.ofExcept .family (f.bind params)) :=
    .ofExcept (.of_ne FamilyError.errorClass_ne _) fun _ => rfl
  have style (b : Brush) (modes : Modes) (tokens : List Value) :
      Asks allowed Failure.errorClass (b.style store allowed modes tokens named) := by
    rw [← Brush.style_ofBrush]
    exact BrushParts.style_asks _ (fun _ h => h) tokens named
  unfold call
  grind

theorem call_constText {f : ColorFamily} {constFormat : Bool} {tokens : List Value}
    {named : List (String × Value)}
    (h : (f.call store constFormat tokens named).run.run c = (.ok (.constText s), c')) :
    constFormat = true := by
  obtain ⟨leading, _, -, h⟩ := exists_of_run_bind h
  dsimp only at h
  split at h
  · cases h
  · obtain ⟨b, _, -, h⟩ := exists_of_run_bind h
    rw [← Brush.style_ofBrush] at h
    exact (BrushParts.style_constText h).2

end ColorFamily

/-- A call of a brush or a family. -/
theorem Tool.call_asks (t : Tool) (tokens : List Value) (named : List (String × Value)) :
    Asks allowed Failure.errorClass (t.call store allowed tokens named) := by
  cases t with
  | brush b =>
    rw [call, ← BrushParts.call_ofBrush]
    exact BrushParts.call_asks _ tokens named
  | family f => exact f.call_asks tokens named

theorem Tool.call_constText {t : Tool} {constFormat : Bool} {tokens : List Value}
    {named : List (String × Value)}
    (h : (t.call store constFormat tokens named).run.run c = (.ok (.constText s), c')) :
    constFormat = true := by
  cases t with
  | brush b =>
    rw [call, ← BrushParts.call_ofBrush] at h
    exact BrushParts.call_constText h
  | family f => exact ColorFamily.call_constText h

end Sgr
