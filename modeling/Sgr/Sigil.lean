import Sgr.Mode

/-!
# Sigils

A sigil is a symbol in front of the content of a styling call. One picks the output mode, one the
revert mode, one separates the sigils from the content, and one ends the parameters of a colour.

## Main definitions

* `Sigil` — the seven symbols.
* `Sigil.output?`, `Sigil.revert?` — the modes that a sigil picks.
* `Sigil.isLeading` — whether a sigil belongs in front of the content.
-/

namespace Sgr

/-- The symbols of the call grammar. -/
inductive Sigil where
  | format
  | string
  | constFormat
  | revertNone
  | revertTotal
  | separator
  | paramsEnd
  deriving DecidableEq, Repr, Inhabited

namespace Sigil

/-- All sigils. -/
def all : List Sigil :=
  [.format, .string, .constFormat, .revertNone, .revertTotal, .separator, .paramsEnd]

/-- The character of a sigil. -/
def char : Sigil → Char
  | format => '%'
  | string => '@'
  | constFormat => '#'
  | revertNone => '!'
  | revertTotal => '*'
  | separator => ','
  | paramsEnd => ';'

/-- The sigil of a character. -/
def ofChar? (c : Char) : Option Sigil :=
  all.find? (·.char = c)

/-- A sigil as text. -/
def text (s : Sigil) : String :=
  s.char.toString

/-- The name of a sigil in capitals. -/
def label : Sigil → String
  | format => "FORMAT"
  | string => "STRING"
  | constFormat => "CONST_FORMAT"
  | revertNone => "REVERT_NONE"
  | revertTotal => "REVERT_TOTAL"
  | separator => "SEPARATOR"
  | paramsEnd => "PARAMS_END"

/-- The output mode that a sigil picks. -/
def output? : Sigil → Option OutputMode
  | format => some .format
  | string => some .string
  | constFormat => some .constFormat
  | _ => none

/-- The revert mode that a sigil picks. -/
def revert? : Sigil → Option RevertMode
  | revertNone => some .none
  | revertTotal => some .total
  | _ => none

/-- Whether a sigil belongs in front of the content; only the end of parameters does not. -/
def isLeading (s : Sigil) : Bool :=
  s ≠ .paramsEnd

theorem ofChar?_char (s : Sigil) : ofChar? s.char = some s := by
  cases s <;> rfl

theorem char_of_ofChar? {c : Char} {s : Sigil} (h : ofChar? c = some s) : s.char = c := by
  have := List.find?_some h
  simpa using this

end Sigil

end Sgr
