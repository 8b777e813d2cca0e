import Sgr.Number.Radix
import Sgr.Style

/-!
# Colours and kinds

There are three sorts of colour: the eight basic ones, normal or bright, the palette of 256, and
those of 24 bits. Each lies on a plane. The ranges are part of the type, so a colour that exists
can be sent to a terminal. A kind is what a styled span can apply: a style or a colour.

## Main definitions

* `Color` — the three sorts.
* `Color.onPlane` — a colour moved to a plane.
* `Color.ofPacked` — the 24-bit colour of a packed number.
* `Color.hex` — the text of a 24-bit colour.
* `Kind` — a style or a colour, with its parameters and its revert group.
-/

namespace Sgr

/-- The names of the basic colours, in code order. -/
def baseColorNames : List String :=
  ["black", "red", "green", "yellow", "blue", "magenta", "cyan", "white"]

/-- The name of a basic colour. -/
def baseColorName (base : Fin 8) : String :=
  baseColorNames[base]

/-- A colour on a plane. -/
inductive Color where
  | basic (base : Fin 8) (bright : Bool) (plane : Plane)
  | indexed (index : Fin 256) (plane : Plane)
  | rgb (red green blue : Fin 256) (plane : Plane)
  deriving DecidableEq, Repr, Inhabited

namespace Color

/-- The plane of a colour. -/
def plane : Color → Plane
  | basic _ _ p => p
  | indexed _ p => p
  | rgb _ _ _ p => p

/-- The same colour on a plane. -/
def onPlane (p : Plane) : Color → Color
  | basic base bright _ => basic base bright p
  | indexed index _ => indexed index p
  | rgb r g b _ => rgb r g b p

@[simp] theorem plane_onPlane (p : Plane) (c : Color) : (c.onPlane p).plane = p := by
  cases c <;> rfl

@[simp] theorem onPlane_onPlane (p q : Plane) (c : Color) :
    (c.onPlane p).onPlane q = c.onPlane q := by
  cases c <;> rfl

@[simp] theorem onPlane_plane (c : Color) : c.onPlane c.plane = c := by
  cases c <;> rfl

/-- The lowest byte of a number. -/
def byteOfNat (n : Nat) : Fin 256 :=
  Fin.ofNat 256 n

/-- The 24-bit colour of a packed number: red, green and blue are its three bytes. -/
def ofPacked (n : Nat) (p : Plane) : Color :=
  rgb (byteOfNat (n / 65536)) (byteOfNat (n / 256)) (byteOfNat n) p

/-- A 24-bit colour as a text of six hexadecimal digits. -/
def hexText (r g b : Fin 256) : String :=
  "#" ++ Number.hexPadded 2 r ++ Number.hexPadded 2 g ++ Number.hexPadded 2 b

/-- The parameters that switch a colour on: one for a basic colour, and otherwise the selector, the
sub-mode and the values. -/
def params : Color → List Nat
  | basic base bright p => [p.basicOffset bright + base]
  | indexed index p => [p.selector, indexedMode, index]
  | rgb r g b p => [p.selector, rgbMode, r, g, b]

end Color

/-- What a styled span applies. -/
inductive Kind where
  | style (s : Style)
  | color (c : Color)
  deriving DecidableEq, Repr, Inhabited

namespace Kind

/-- The parameters that switch a kind on. -/
def params : Kind → List Nat
  | style s => [s.code]
  | color c => c.params

/-- The revert group of a kind. -/
def group : Kind → RevertGroup
  | style s => s.group
  | color c => c.plane.group

theorem params_ne_nil (k : Kind) : k.params ≠ [] := by
  rcases k with s | c
  · simp [params]
  · cases c <;> simp [params, Color.params]

end Kind

end Sgr
