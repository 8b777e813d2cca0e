import Sgr.Color.Reading

/-!
# Brushes of a family

A colour family takes one parameter for an indexed colour, and three components or one packed colour
for a colour of 24 bits. With its parameters it becomes a brush, which is named for them.

## Main definitions

* `FamilyError` — why parameters give no brush.
* `ColorFamily.color` — the colour of parameters.
* `ColorFamily.bind` — the brush of parameters.
-/

namespace Sgr

/-- Why parameters give no brush. -/
inductive FamilyError where
  | indexCount (family : String) (count : Nat)
  | rgbCount (family : String) (count : Nat)
  | color (e : ColorError)
  deriving Inhabited

namespace FamilyError

/-- The text of an error. -/
def message : FamilyError → String
  | indexCount family count =>
    family ++ " takes one color index, got " ++ Number.decimal count ++ " parameters"
  | rgbCount family count =>
    family ++ " takes r, g, b or a single packed color, got " ++ Number.decimal count
      ++ " parameters"
  | color e => e.message

/-- The class of an error. -/
def errorClass : FamilyError → ErrorClass
  | indexCount .. | rgbCount .. => .grammar
  | color e => e.errorClass

/-- The value that an error is about, where it names one. -/
def subject? : FamilyError → Option Value
  | color e => e.subject?
  | _ => none

end FamilyError

namespace ColorFamily

/-- The group of the colours of a family. -/
def group (f : ColorFamily) : RevertGroup :=
  f.plane.group

/-- The colour of 24 bits that a single parameter gives: a packed number, a hexadecimal text, or a
colour in another form. -/
def packedColor (f : ColorFamily) (v : Value) : Except ColorError Color :=
  match v.whole?, v.text? with
  | some i, _ => Color.ofPackedInt i f.plane
  | none, some s => Color.ofHexValue v s f.plane
  | none, none => Color.ofValue v f.plane

/-- The colour of parameters. -/
def color (f : ColorFamily) (params : List Value) : Except FamilyError Color :=
  if f.isRgb then
    match params with
    | [v] => (f.packedColor v).mapError .color
    | [_, _, _] => (Color.ofValue (.tuple params) f.plane).mapError .color
    | params => .error (.rgbCount f.name params.length)
  else
    match params with
    | [v] => (Color.indexedOf v f.plane).mapError .color
    | params => .error (.indexCount f.name params.length)

/-- The brush of a colour, which is named for its parameters. -/
def bind (f : ColorFamily) (params : List Value) : Except FamilyError Brush := do
  let c ← f.color params
  return { name := f.name ++ "[" ++ Text.commaList (params.map Value.str) ++ "]",
           kinds := [.color c] }

end ColorFamily

end Sgr
