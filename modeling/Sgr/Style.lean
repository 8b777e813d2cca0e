/-!
# Styles and revert groups

A style is switched on by one SGR parameter. What switches it off is not its own: styles that a
terminal cannot switch off separately form a revert group, and the group has one parameter that
undoes whichever of its members is on. Colours of a plane form a group too.

## Main definitions

* `Style`, `Plane`, `RevertGroup` — the three enumerations, each in table order.
* `Style.code`, `Style.group` — the parameter and the group of a style.
* `RevertGroup.resetCode` — the parameter that reverts a group.
* `Plane.selector`, `Plane.basicOffset`, `Plane.group` — the codes of a colour plane.
-/

namespace Sgr

/-- The parameter that resets every attribute. -/
def resetAll : Nat := 0

/-- The sub-mode parameter of a colour of the indexed palette. -/
def indexedMode : Nat := 5

/-- The sub-mode parameter of a 24-bit colour. -/
def rgbMode : Nat := 2

/-- Kinds that one parameter undoes together. -/
inductive RevertGroup where
  | intensity
  | italic
  | underline
  | blink
  | invert
  | conceal
  | strikethrough
  | script
  | fgColor
  | bgColor
  deriving DecidableEq, Repr, Inhabited

/-- Text styles with a parameter of their own. -/
inductive Style where
  | bold
  | faint
  | italic
  | underline
  | blink
  | blink2
  | invert
  | conceal
  | strikethrough
  | superscript
  | subscript
  deriving DecidableEq, Repr, Inhabited

/-- Which part of a character cell a colour applies to. -/
inductive Plane where
  | foreground
  | background
  deriving DecidableEq, Repr, Inhabited

namespace RevertGroup

/-- All groups, in table order. -/
def all : List RevertGroup :=
  [.intensity, .italic, .underline, .blink, .invert, .conceal, .strikethrough, .script, .fgColor,
   .bgColor]

/-- The name of a group. -/
def name : RevertGroup → String
  | intensity => "intensity"
  | italic => "italic"
  | underline => "underline"
  | blink => "blink"
  | invert => "invert"
  | conceal => "conceal"
  | strikethrough => "strikethrough"
  | script => "script"
  | fgColor => "fg-color"
  | bgColor => "bg-color"

/-- The group of a name. -/
def ofName? (s : String) : Option RevertGroup :=
  all.find? (·.name = s)

/-- The parameter that reverts every member of a group. -/
def resetCode : RevertGroup → Nat
  | intensity => 22
  | italic => 23
  | underline => 24
  | blink => 25
  | invert => 27
  | conceal => 28
  | strikethrough => 29
  | script => 75
  | fgColor => 39
  | bgColor => 49

end RevertGroup

namespace Style

/-- All styles, in table order. -/
def all : List Style :=
  [.bold, .faint, .italic, .underline, .blink, .blink2, .invert, .conceal, .strikethrough,
   .superscript, .subscript]

/-- The name of a style. -/
def name : Style → String
  | bold => "bold"
  | faint => "faint"
  | italic => "italic"
  | underline => "underline"
  | blink => "blink"
  | blink2 => "blink2"
  | invert => "invert"
  | conceal => "conceal"
  | strikethrough => "strikethrough"
  | superscript => "superscript"
  | subscript => "subscript"

/-- The style of a name. -/
def ofName? (s : String) : Option Style :=
  all.find? (·.name = s)

/-- The parameter that switches a style on. The last two are a terminal extension. -/
def code : Style → Nat
  | bold => 1
  | faint => 2
  | italic => 3
  | underline => 4
  | blink => 5
  | blink2 => 6
  | invert => 7
  | conceal => 8
  | strikethrough => 9
  | superscript => 73
  | subscript => 74

/-- The group whose parameter switches a style off. -/
def group : Style → RevertGroup
  | bold | faint => .intensity
  | italic => .italic
  | underline => .underline
  | blink | blink2 => .blink
  | invert => .invert
  | conceal => .conceal
  | strikethrough => .strikethrough
  | superscript | subscript => .script

end Style

namespace Plane

/-- Both planes, in table order. -/
def all : List Plane := [.foreground, .background]

/-- The short name of a plane. -/
def name : Plane → String
  | foreground => "fg"
  | background => "bg"

/-- The plane of a short name. -/
def ofName? (s : String) : Option Plane :=
  all.find? (·.name = s)

/-- The parameter of base colour zero, normal or bright. -/
def basicOffset : Plane → Bool → Nat
  | foreground, false => 30
  | foreground, true => 90
  | background, false => 40
  | background, true => 100

/-- The parameter that announces an indexed or 24-bit colour. -/
def selector : Plane → Nat
  | foreground => 38
  | background => 48

/-- The revert group of the colours of a plane. -/
def group : Plane → RevertGroup
  | foreground => .fgColor
  | background => .bgColor

end Plane

end Sgr
