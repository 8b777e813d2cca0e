import Sgr.Color
import Sgr.Mode

/-!
# Brushes and colour families

A brush is what a program styles text with: one or more kinds under a name, together with the modes
that apply when a call names none. A colour family stands for the indexed or the 24-bit colours of
a plane and becomes a brush once its parameters are given.

## Main definitions

* `Brush` — a named list of kinds with default modes.
* `Brush.withModes` — the same kinds with other modes.
* `ColorFamily` — the colours of a plane that need parameters.
* `Tool` — a brush or a family.
-/

namespace Sgr

/-- A named list of kinds with the modes that apply by default. -/
structure Brush where
  name : String
  kinds : List Kind
  modes : Modes := {}
  deriving DecidableEq, Repr, Inhabited

/-- The text of a brush, given those of its name and its modes. -/
def brushText (name output revert : String) : String :=
  "StyleMacro(" ++ name ++ ", output=" ++ output ++ ", revert=" ++ revert ++ ")"

/-- The text of a brush, given its name in quotes. -/
def Brush.text (b : Brush) (quotedName : String) : String :=
  brushText quotedName b.modes.output.name b.modes.revert.name

/-- A brush with other modes; those that are not given stay. -/
def Brush.withModes (b : Brush) (output : Option OutputMode) (revert : Option RevertMode) : Brush :=
  { b with modes := ⟨output.getD b.modes.output, revert.getD b.modes.revert⟩ }

/-- The indexed or the 24-bit colours of a plane. -/
structure ColorFamily where
  name : String
  plane : Plane
  isRgb : Bool
  deriving DecidableEq, Repr, Inhabited

/-- What content can be styled with: a brush, or a family, which needs parameters first. -/
inductive Tool where
  | brush (b : Brush)
  | family (f : ColorFamily)
  deriving DecidableEq, Repr, Inhabited

namespace Tool

/-- The name of a brush or a family. -/
def name : Tool → String
  | brush b => b.name
  | family f => f.name

/-- The name of a tool's type. -/
def typeName : Tool → String
  | brush _ => "StyleMacro"
  | family _ => "ColorFamily"

end Tool

end Sgr
