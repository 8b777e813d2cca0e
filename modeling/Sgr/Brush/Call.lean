import Sgr.Brush.Registry

/-!
# Styling calls

A brush styles the content of a call under its own modes, unless leading sigils pick others. With a
template mode the first text is the template and the rest are its arguments; without a text every
argument is written in turn. Literal output joins the content.

A colour family takes its parameters from the front of the content.

The feature flag for constant text is an argument of every call, and a call that would give constant
text fails without it, wherever the mode came from.

## Main definitions

* `Brush.resolve` — what a brush resolves to.
* `Content.ofTokens` — the content of a call.
* `Brush.style`, `Brush.call` — a call with given modes, and one with leading sigils.
* `BrushParts.style`, `BrushParts.call` — the same calls with parts of any type.
* `ColorFamily.call`, `Tool.call` — a call of a family, and of a brush or a family.
-/

namespace Sgr

/-- The content of a call in an output mode. -/
def Content.ofTokens (output : OutputMode) (tokens : List Value) (named : List (String × Value)) :
    Except CallError Content :=
  if output.needsTemplate then
    match tokens with
    | [] => .error .noTemplate
    | v :: rest =>
      if v.text?.isSome then .ok (.template v ⟨rest, named⟩)
      else
        .ok (.template (.text (String.ofList (tokens.flatMap fun _ => ['\x7b', '\x7d'])))
          ⟨tokens, named⟩)
  else if named.isEmpty then .ok (.literal tokens)
  else .error .namedArguments

namespace Brush

/-- What a brush resolves to under a revert mode, or its own. -/
def resolve (b : Brush) (revert : Option RevertMode) : Except KindError Resolution :=
  Resolution.ofKinds? b.kinds (revert.getD b.modes.revert)

/-- Styles content under given modes. -/
def style (b : Brush) (store : Store) (constFormat : Bool) (modes : Modes) (tokens : List Value)
    (named : List (String × Value)) : InContext Failure Styled := do
  if modes.output = .constFormat && !constFormat then throw (.call .constFormatDisabled)
  let content ← InContext.ofExcept .call (Content.ofTokens modes.output tokens named)
  (Request.render store ⟨b.kinds, modes, content⟩).mapError RequestError.failure

/-- Styles content under the modes that leading sigils pick; without one the brush's own apply. -/
def call (b : Brush) (store : Store) (constFormat : Bool) (tokens : List Value)
    (named : List (String × Value)) : InContext Failure Styled := do
  let leading ← InContext.ofExcept .sigil (Leading.read constFormat tokens)
  let modes := if leading.content.length = tokens.length then b.modes else leading.modes
  b.style store constFormat modes leading.content named

end Brush

namespace BrushParts

/-- What parts resolve to under a revert mode, or their own. -/
def resolve (p : BrushParts) (revert : Option RevertMode) : Except Failure Resolution := do
  let kinds ← p.kindValues.mapError .bracket
  (Resolution.ofValues kinds (revert.getD p.ownRevert)).mapError .kind

/-- Styles content under given modes. The kinds are listed last. -/
def style (p : BrushParts) (store : Store) (constFormat : Bool) (modes : Modes)
    (tokens : List Value) (named : List (String × Value)) : InContext Failure Styled := do
  if modes.output = .constFormat && !constFormat then throw (.call .constFormatDisabled)
  let content ← InContext.ofExcept .call (Content.ofTokens modes.output tokens named)
  let r ← InContext.ofExcept id (p.resolve (some modes.revert))
  (r.wrap store content modes.output).mapError RequestError.failure

/-- Styles content under the modes that leading sigils pick; without one the parts' own apply. -/
def call (p : BrushParts) (store : Store) (constFormat : Bool) (tokens : List Value)
    (named : List (String × Value)) : InContext Failure Styled := do
  let leading ← InContext.ofExcept .sigil (Leading.read constFormat tokens)
  let modes ←
    if leading.content.length = tokens.length then InContext.ofExcept .access p.ownModes
    else pure leading.modes
  p.style store constFormat modes leading.content named

theorem kindsOf_value (kinds : List Kind) : kindsOf (kinds.map Kind.value) = .ok kinds := by
  induction kinds with
  | nil => rfl
  | cons k ks ih =>
    cases k <;> simp [kindsOf, Kind.value, Value.kind, ih, bind, Except.bind, pure, Except.pure]

theorem ofValues_value (kinds : List Kind) (revert : RevertMode) :
    Resolution.ofValues (kinds.map Kind.value) revert = Resolution.ofKinds? kinds revert := by
  unfold Resolution.ofValues
  rw [kindsOf_value]
  rfl

/-- Parts of a proper brush resolve to what the brush does. -/
theorem resolve_ofBrush (b : Brush) (revert : Option RevertMode) :
    (ofBrush b).resolve revert = (b.resolve revert).mapError .kind := by
  have kinds : (ofBrush b).kindValues = .ok (b.kinds.map Kind.value) := rfl
  unfold resolve
  rw [kinds]
  exact congrArg (·.mapError Failure.kind) (ofValues_value b.kinds _)

end BrushParts

namespace ColorFamily

/-- How many parameters the content of a call starts with: three numbers for a colour of 24 bits,
and otherwise one parameter. -/
def paramCount (f : ColorFamily) (content : List Value) : Nat :=
  match f.isRgb, content with
  | true, .int _ :: _ | true, .level _ :: _ | true, .float _ :: _ => 3
  | _, _ => 1

/-- The content without the sigil that ends the parameters. -/
def dropParamsEnd : List Value → List Value
  | .sigil .paramsEnd :: rest => rest
  | content => content

/-- Styles content in the colour of the parameters in front of it. -/
def call (f : ColorFamily) (store : Store) (constFormat : Bool) (tokens : List Value)
    (named : List (String × Value)) : InContext Failure Styled := do
  let leading ← InContext.ofExcept .sigil (Leading.read constFormat tokens)
  let count := f.paramCount (store.viewAll leading.content)
  if leading.content.length < count then throw (.call (.noParams f.name))
  let b ← InContext.ofExcept .family (f.bind (store.viewAll (leading.content.take count)))
  b.style store constFormat leading.modes (dropParamsEnd (leading.content.drop count)) named

end ColorFamily

/-- Styles content with a brush or a family. -/
def Tool.call (t : Tool) (store : Store) (constFormat : Bool) (tokens : List Value)
    (named : List (String × Value)) : InContext Failure Styled :=
  match t with
  | brush b => b.call store constFormat tokens named
  | family f => f.call store constFormat tokens named

end Sgr
