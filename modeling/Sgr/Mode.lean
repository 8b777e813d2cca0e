/-!
# Output and revert modes

A styling call chooses how its result is represented and what follows the content.

## Main definitions

* `OutputMode` — literal text, a deferred template, text rendered at once, or constant text.
* `RevertMode` — revert the kinds' own groups, reset everything, or leave the formatting on.
-/

namespace Sgr

/-- How the result of a styling call is represented. Literal and constant results need constant
content; a deferred one is rendered when it is read. -/
inductive OutputMode where
  | literal
  | format
  | string
  | constFormat
  deriving DecidableEq, Repr, Inhabited

namespace OutputMode

/-- All output modes. -/
def all : List OutputMode := [.literal, .format, .string, .constFormat]

/-- The name of an output mode. -/
def name : OutputMode → String
  | literal => "literal"
  | format => "format"
  | string => "string"
  | constFormat => "const_format"

/-- The output mode of a name. -/
def ofName? (s : String) : Option OutputMode :=
  all.find? (·.name = s)

/-- Whether the content is a template with arguments. -/
def needsTemplate (m : OutputMode) : Bool :=
  m ≠ .literal

end OutputMode

/-- What is sent after the content. -/
inductive RevertMode where
  | single
  | total
  | none
  deriving DecidableEq, Repr, Inhabited

namespace RevertMode

/-- All revert modes. -/
def all : List RevertMode := [.single, .total, .none]

/-- The name of a revert mode. -/
def name : RevertMode → String
  | single => "single"
  | total => "total"
  | none => "none"

/-- The revert mode of a name. -/
def ofName? (s : String) : Option RevertMode :=
  all.find? (·.name = s)

end RevertMode

/-- The two modes of a call. -/
structure Modes where
  output : OutputMode := .literal
  revert : RevertMode := .single
  deriving DecidableEq, Repr, Inhabited

end Sgr
