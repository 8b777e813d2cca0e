import Sgr.Brush
import Sgr.Moment
import Sgr.Sequence
import Sgr.Settings
import Sgr.Sigil

/-!
# Values

A styling call takes values of any type: the template's arguments, the parts of a literal, the
parameters of a colour. Some values are told apart although they look the same: lists, mappings and
deferred texts, which can be changed after a call has taken them, brushes that were made from
others, and undefined numbers. They are shared cells of a store (`Sgr.Value.Store`), and a value
that mentions one holds its number. Looking a cell up gives the value that it holds at the moment.

## Main definitions

* `Value` — the values.
* `Value.shortTypeName`, `Value.typeName` — the name of a value's type, alone and as most messages
  show it.
* `Value.repr` — the text of a value as messages and containers show it.
* `Value.str` — the own text of a value that is not deferred.
-/

namespace Sgr

/-- The values that a call can be given. A deferred text has a template, arguments by position and
arguments by name, each of which can be replaced by any value. A makeshift brush is one whose parts
were replaced by values that do not fit them. A shade is a basic colour whose brightness is no truth
value. An open set is one that could still get items. -/
inductive Value where
  | nothing
  | bool (b : Bool)
  | int (i : Int)
  | float (x : Double)
  | complex (re im : Double)
  | text (s : String)
  | bytes (bs : List UInt8)
  | sigil (s : Sigil)
  | style (s : Style)
  | group (g : RevertGroup)
  | level (l : LogLevel)
  | output (m : OutputMode)
  | revert (m : RevertMode)
  | color (c : Color)
  | shade (base : Fin 8) (bright : Value) (plane : Plane)
  | constText (s : String)
  | list (items : List Value)
  | tuple (items : List Value)
  | set (items : List Value)
  | openSet (items : List Value)
  | dict (entries : List (Value × Value))
  | deferred (template args named : Value)
  | cell (id : Nat)
  | brush (b : Brush)
  | makeshift (name kinds output revert : Value)
  | family (f : ColorFamily)
  | resolution (r : Resolution)
  | settings (s : Settings)
  | path (shown : String)
  | moment (m : Moment)
  | object (typeName own shown : String)
  deriving Inhabited

namespace Value

/-- The name of a value's type alone. -/
def shortTypeName : Value → String
  | nothing => "NoneType"
  | bool _ => "bool"
  | int _ => "int"
  | float _ => "float"
  | complex .. => "complex"
  | text _ => "str"
  | bytes _ => "bytes"
  | sigil _ => "Sigil"
  | style _ => "StyleKind"
  | group _ => "RevertGroup"
  | level _ => "LogLevel"
  | output _ => "OutputMode"
  | revert _ => "RevertMode"
  | color (.basic ..) | shade .. => "BasicColor"
  | color (.indexed ..) => "IndexedColor"
  | color (.rgb ..) => "RgbColor"
  | constText _ => "ConstText"
  | list _ => "list"
  | tuple _ => "tuple"
  | set _ => "frozenset"
  | openSet _ => "set"
  | dict _ => "dict"
  | deferred .. => "SgrFormat"
  | cell _ => "object"
  | brush _ | makeshift .. => "StyleMacro"
  | family _ => "ColorFamily"
  | resolution _ => "Resolution"
  | settings _ => "Settings"
  | path _ => "PosixPath"
  | moment m => m.typeName
  | object name .. => name

/-- The name of a value's type as most messages show it: the types of moments are shown with what
they are part of. -/
def typeName (v : Value) : String :=
  match v with
  | moment _ => "datetime." ++ v.shortTypeName
  | v => v.shortTypeName

/-- The characters of a text, whether it is a plain one or a sigil. -/
def text? : Value → Option String
  | text s => some s
  | sigil s => some s.text
  | _ => none

/-- A whole number that is no truth value. -/
def whole? : Value → Option Int
  | int i => some i
  | level l => some l.code
  | _ => none

/-- A whole number, whether it is written as one or as a truth value. -/
def int? : Value → Option Int
  | bool b => some (if b then 1 else 0)
  | v => v.whole?

/-- The kind that a value is. -/
def kind? : Value → Option Kind
  | style s => some (.style s)
  | color c => some (.color c)
  | _ => none

/-- The brush or family that a value is. -/
def tool? : Value → Option Tool
  | brush b => some (.brush b)
  | family f => some (.family f)
  | _ => none

/-- Whether a value counts as empty: nothing, false, a zero, or without content. -/
def isEmpty : Value → Bool
  | nothing => true
  | bool b => !b
  | int i => i = 0
  | float x => x.isZero
  | complex re im => re.isZero && im.isZero
  | text s | constText s => s.isEmpty
  | bytes bs => bs.isEmpty
  | list items | tuple items | set items | openSet items => items.isEmpty
  | dict entries => entries.isEmpty
  | _ => false

/-- A plane with its value. -/
def planeText : Plane → String
  | .foreground => Text.member "Plane" "FOREGROUND" (Text.quote "fg")
  | .background => Text.member "Plane" "BACKGROUND" (Text.quote "bg")

/-- The text of a basic colour, given that of its brightness. -/
def basicText (base : Fin 8) (bright : String) (p : Plane) : String :=
  "BasicColor(base=" ++ Number.decimal base.val ++ ", bright=" ++ bright ++ ", plane="
    ++ planeText p ++ ")"

/-- The text of a colour, with its fields. -/
def colorText : Color → String
  | .basic base bright p => basicText base (Text.truth bright) p
  | .indexed index p =>
    "IndexedColor(index=" ++ Number.decimal index.val ++ ", plane=" ++ planeText p ++ ")"
  | .rgb r g b p =>
    "RgbColor(r=" ++ Number.decimal r.val ++ ", g=" ++ Number.decimal g.val ++ ", b="
      ++ Number.decimal b.val ++ ", plane=" ++ planeText p ++ ")"

/-- The text of a resolution, with its fields. -/
def resolutionText (r : Resolution) : String :=
  let params (ps : List Nat) := Text.parenthesized (ps.map fun (n : Nat) => Number.decimal n)
  "Resolution(set_params=" ++ params r.set ++ ", reset_params=" ++ params r.reset ++ ", groups="
    ++ Text.parenthesized (r.groups.map fun g => Text.quotedMember "RevertGroup" g.name) ++ ")"

/-- A number in front of which a plus is written unless it has a minus. -/
def signedChars (x : Double) : List Char :=
  (if x.isNegative then [] else ['+']) ++ x.spell .shortest 0 {}

/-- The text of a complex number. The real part is left out when it is the positive zero. -/
def complexText (re im : Double) : String :=
  if re.isZero && !re.isNegative then String.ofList (im.spell .shortest 0 {}) ++ "j"
  else "(" ++ String.ofList (re.spell .shortest 0 {} ++ signedChars im) ++ "j)"

/-- What a member of an enumeration stands for. -/
def meaning? : Value → Option Value
  | sigil s => some (text s.text)
  | style s => some (text s.name)
  | group g => some (text g.name)
  | level l => some (int l.code)
  | output m => some (text m.name)
  | revert m => some (text m.name)
  | _ => none

/-- The text of what a member of an enumeration stands for; other values have none. -/
def meaningText (v : Value) : String :=
  match v.meaning? with
  | some (text s) => s
  | some (int i) => Number.decimal i
  | _ => ""

mutual

/-- The text of a value as messages and containers show it. A cell that was not looked up is shown
by dots. -/
def repr : Value → String
  | nothing => "None"
  | bool b => Text.truth b
  | int i => Number.decimal i
  | float x => x.text
  | complex re im => complexText re im
  | text s => Text.quote s
  | bytes bs => Text.quoteBytes bs
  | sigil s => Text.member "Sigil" s.label (Text.quote s.text)
  | style s => Text.quotedMember "StyleKind" s.name
  | group g => Text.quotedMember "RevertGroup" g.name
  | level l => l.shown
  | output m => Text.quotedMember "OutputMode" m.name
  | revert m => Text.quotedMember "RevertMode" m.name
  | color c => colorText c
  | shade base bright p => basicText base (repr bright) p
  | constText s => "ConstText(" ++ Text.quote s ++ ")"
  | list items => "[" ++ Text.commaList (reprAll items) ++ "]"
  | tuple items => Text.parenthesized (reprAll items)
  | set [] => "frozenset()"
  | set (item :: items) => "frozenset(" ++ Text.braced (repr item :: reprAll items) ++ ")"
  | openSet [] => "set()"
  | openSet (item :: items) => Text.braced (repr item :: reprAll items)
  | dict entries => Text.braced (reprEntries entries)
  | deferred template args named =>
    "SgrFormat(" ++ repr template ++ ", args=" ++ repr args ++ ", kwargs=" ++ repr named ++ ")"
  | cell _ => "..."
  | brush b => b.text (Text.quote b.name)
  | makeshift name _ o r => brushText (repr name) o.meaningText r.meaningText
  | family f => "ColorFamily(" ++ Text.quote f.name ++ ")"
  | resolution r => resolutionText r
  | settings s => s.text
  | path shown => "PosixPath(" ++ Text.quote shown ++ ")"
  | moment m => m.repr
  | object _ _ shown => shown

/-- The texts of items. -/
def reprAll : List Value → List String
  | [] => []
  | v :: vs => repr v :: reprAll vs

/-- The texts of the entries of a mapping. -/
def reprEntries : List (Value × Value) → List String
  | [] => []
  | (k, v) :: es => (repr k ++ ": " ++ repr v) :: reprEntries es

end

/-- The own text of a value, as far as it needs no rendering. -/
def str : Value → String
  | text s | constText s => s
  | sigil s => s.text
  | style s => "StyleKind." ++ Text.label s.name
  | group g => "RevertGroup." ++ Text.label g.name
  | level l => Number.decimal l.code
  | output m => "OutputMode." ++ Text.label m.name
  | revert m => "RevertMode." ++ Text.label m.name
  | path shown => shown
  | moment m => m.text
  | object _ own _ => own
  | v => v.repr

end Value

end Sgr
