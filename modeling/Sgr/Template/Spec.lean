import Sgr.Template.Fault
import Sgr.Text.Digit

/-!
# Format specifications

A format specification says how wide the text of a value is to be and how a number is written:

    [[fill]align][sign][z][#][0][width][separator][.precision][code]

The parts are read in this order, and whatever is left at the end is an error.

## Main definitions

* `Spec` — the parts.
* `Spec.ofChars` — the parts of a text.
* `Spec.place` — text in the width of a specification.
-/

namespace Sgr

/-- Where a text stands in its width. `inner` puts the padding between the sign and the digits. -/
inductive Align where
  | left
  | right
  | center
  | inner
  deriving DecidableEq, Repr, Inhabited

/-- The parts of a format specification. -/
structure Spec where
  fill : Char := ' '
  align : Align := .left
  sign : Option Char := none
  plainZero : Bool := false
  alternate : Bool := false
  width : Option Nat := none
  separator : Option Char := none
  precision : Option Nat := none
  code : Option Char := none
  deriving DecidableEq, Repr, Inhabited

namespace Spec

/-- The alignment of a character. -/
def align? (c : Char) : Option Align :=
  if c = '<' then some .left
  else if c = '>' then some .right
  else if c = '^' then some .center
  else if c = '=' then some .inner
  else none

/-- Reads a fill character and an alignment, both of which may be missing. -/
def readAlign : List Char → Option Char × Option Align × List Char
  | [] => (none, none, [])
  | c :: r =>
    match r.head?.bind align? with
    | some a => (some c, some a, r.tail)
    | none =>
      match align? c with
      | some a => (none, some a, r)
      | none => (none, none, c :: r)

/-- Reads a sign choice. -/
def readSign : List Char → Option Char × List Char
  | c :: r => if c = ' ' ∨ c = '+' ∨ c = '-' then (some c, r) else (none, c :: r)
  | [] => (none, [])

/-- Reads a character that may be missing. -/
def readFlag (flag : Char) : List Char → Bool × List Char
  | c :: r => if c = flag then (true, r) else (false, c :: r)
  | [] => (false, [])

/-- Reads the digits of a count, given the number so far. -/
def readCountFrom (n : Nat) : List Char → Except FormatFault (Nat × List Char)
  | [] => .ok (n, [])
  | c :: r =>
    match Text.decimalValue? c with
    | none => .ok (n, c :: r)
    | some d =>
      if Number.maxSigned < n * 10 + d then .error .tooManyDigits
      else readCountFrom (n * 10 + d) r

/-- Reads a count, which may be missing. -/
def readCount (cs : List Char) : Except FormatFault (Option Nat × List Char) :=
  match cs.head?.bind Text.decimalValue? with
  | none => .ok (none, cs)
  | some _ => (readCountFrom 0 cs).map fun (n, r) => (some n, r)

/-- Reads a separator of groups of digits. Only one of the two can be given. -/
def readSeparator : List Char → Except FormatFault (Option Char × List Char)
  | ',' :: '_' :: _ => .error .bothSeparators
  | '_' :: ',' :: _ => .error .bothSeparators
  | ',' :: r => .ok (some ',', r)
  | '_' :: r => .ok (some '_', r)
  | cs => .ok (none, cs)

/-- Reads a precision, which must have a number when there is a point. -/
def readPrecision : List Char → Except FormatFault (Option Nat × List Char)
  | '.' :: r =>
    match readCount r with
    | .error f => .error f
    | .ok (none, _) => .error .missingPrecision
    | .ok (some n, rest) => .ok (some n, rest)
  | cs => .ok (none, cs)

/-- Whether groups of digits can be separated in a code. Commas are for decimal digits only. -/
def allowsSeparator (separator : Char) : Option Char → Bool
  | none => true
  | some c =>
    ['d', 'e', 'f', 'g', 'E', 'G', '%', 'F'].contains c ||
      (separator = '_' && ['b', 'o', 'x', 'X'].contains c)

/-- Checks the separator against the code. -/
def checkSeparator (s : Spec) : Except FormatFault Spec :=
  match s.separator with
  | none => .ok s
  | some separator =>
    if allowsSeparator separator s.code then .ok s
    else .error (.separatorWith separator (s.code.getD '\x00'))

/-- Reads a specification for a type of values, whose texts stand at `align` unless the
specification says otherwise and have `code` by default. A zero in front of the width fills with
zeros, inside a number. -/
def ofChars (typeName : String) (code : Option Char) (align : Align) (cs : List Char) :
    Except FormatFault Spec := do
  let (fill, aligned, rest) := readAlign cs
  let (sign, rest) := readSign rest
  let (plainZero, rest) := readFlag 'z' rest
  let (alternate, rest) := readFlag '#' rest
  let (zeros, rest) := if fill.isSome then (false, rest) else readFlag '0' rest
  let (width, rest) ← readCount rest
  let (separator, rest) ← readSeparator rest
  let (precision, rest) ← readPrecision rest
  let spec : Spec :=
    { fill := if zeros then '0' else fill.getD ' '
      align := aligned.getD (if zeros && align = .right then .inner else align)
      sign, plainZero, alternate, width, separator, precision, code }
  match rest with
  | [] => checkSeparator spec
  | [c] => checkSeparator { spec with code := some c }
  | _ => .error (.badSpec (String.ofList cs) typeName)

/-- The padding on the left and on the right of a text of some length. -/
def padding (s : Spec) (length : Nat) : Nat × Nat :=
  let missing := s.width.getD 0 - length
  match s.align with
  | .left | .inner => (0, missing)
  | .right => (missing, 0)
  | .center => (missing / 2, missing - missing / 2)

/-- A text in the width of a specification. -/
def place (s : Spec) (cs : List Char) : List Char :=
  let (left, right) := s.padding cs.length
  List.replicate left s.fill ++ cs ++ List.replicate right s.fill

end Spec

end Sgr
