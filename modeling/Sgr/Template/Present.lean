import Sgr.Moment.Directive
import Sgr.Template.Spec

/-!
# Values in a format

A value is written under a format specification by the rules of its type. An empty specification
always gives the value's own text; otherwise texts are cut and padded, whole numbers and fractions
are written by a code, and values of other types have no rules.

## Main definitions

* `presentText`, `presentInt`, `presentDouble`, `presentComplex` — the rules by type.
* `Value.present` — a value under a specification.
-/

namespace Sgr

/-- A text under a specification: cut to the precision and padded to the width. -/
def presentText (s : String) (spec : List Char) : Except FormatFault String :=
  if spec.isEmpty then .ok s
  else do
    let spec ← Spec.ofChars "str" (some 's') .left spec
    let code := spec.code.getD 's'
    if code ≠ 's' then .error (.unknownCode code "str")
    else if spec.sign = some ' ' then .error .spaceInText
    else if spec.sign.isSome then .error .signInText
    else if spec.plainZero then .error .zeroInText
    else if spec.alternate then .error .alternateInText
    else if spec.align = .inner then .error .innerInText
    else
      let cs := match spec.precision with
        | some n => s.toList.take n
        | none => s.toList
      .ok (String.ofList (spec.place cs))

/-- Digits in groups from the right, given and returned in reverse. Zeros are added until the digits
and separators fill `width`. -/
def groupReversed (separator : Char) (size : Nat) : Nat → Nat → List Char → List Char
  | 0, _, ds => ds
  | fuel + 1, width, ds =>
    let count := min size (max (max ds.length width) 1)
    let chunk := ds.take count ++ List.replicate (count - ds.length) '0'
    let rest := ds.drop count
    if rest.isEmpty && width ≤ count then chunk
    else chunk ++ separator :: groupReversed separator size fuel (width - count - 1) rest

/-- Digits filled with zeros to a width, and in groups if there is a separator. -/
def groupDigits (separator : Option (Char × Nat)) (width : Nat) (ds : List Char) : List Char :=
  match separator with
  | none => Number.padZeros width ds
  | some (c, size) => (groupReversed c size (ds.length + width + 1) width ds.reverse).reverse

/-- The sign of a number under a sign choice. -/
def signChars (sign : Option Char) (negative : Bool) : List Char :=
  if negative then ['-']
  else match sign with
    | some '+' => ['+']
    | some ' ' => [' ']
    | _ => []

/-- A number in its width: sign, mark, digits in groups, and what follows the digits. Zeros that
fill the inside count as digits, so they are grouped too. -/
def placeNumber (spec : Spec) (separator : Option (Char × Nat)) (negative : Bool)
    (mark digits rest : List Char) : List Char :=
  let sign := signChars spec.sign negative
  let others := sign.length + mark.length + rest.length
  let width :=
    if spec.fill = '0' && spec.align = .inner then spec.width.getD 0 - others else 0
  let grouped := if digits.isEmpty then [] else groupDigits separator width digits
  if spec.align = .inner then
    sign ++ mark ++ List.replicate (spec.width.getD 0 - (others + grouped.length)) spec.fill
      ++ grouped ++ rest
  else spec.place (sign ++ mark ++ grouped ++ rest)

/-- The separator of a specification with the size of its groups. -/
def separatorFor (spec : Spec) : Option (Char × Nat) :=
  spec.separator.map fun c =>
    (c, if ['b', 'o', 'x', 'X'].contains (spec.code.getD 'd') then 4 else 3)

/-- A number of double precision under a specification that was read already. Without a code it is
written as briefly as possible, or generally if there is a precision, and looks like a fraction
either way. -/
def writeDouble (spec : Spec) (typeName : String) (x : Double) : Except FormatFault (List Char) :=
  let code := spec.code.getD 'r'
  let spelling : Spelling :=
    { keepPoint := spec.alternate, plainZero := spec.plainZero
      pointZero := spec.code.isNone, capitals := code.isUpper }
  let precision := spec.precision.getD 6
  let spelled : Option (List Char) :=
    match spec.code with
    | none =>
      some (x.spell (if spec.precision.isSome then .general else .shortest) precision spelling)
    | some c =>
      if c = 'e' ∨ c = 'E' then some (x.spell .exponent precision spelling)
      else if c = 'f' ∨ c = 'F' then some (x.spell .fixed precision spelling)
      else if c = 'g' ∨ c = 'G' ∨ c = 'n' then some (x.spell .general precision spelling)
      else if c = '%' then some ((x.timesNat 100).spell .fixed precision spelling ++ ['%'])
      else none
  match spelled with
  | none => .error (.unknownCode code typeName)
  | some ('-' :: cs) => .ok (place true cs)
  | some cs => .ok (place false cs)
where
  /-- Splits off the digits in front of the point. -/
  place (negative : Bool) (cs : List Char) : List Char :=
    placeNumber spec (separatorFor spec) negative [] (cs.takeWhile Char.isDigit)
      (cs.dropWhile Char.isDigit)

/-- A number of double precision under a specification. -/
def presentDouble (x : Double) (spec : List Char) : Except FormatFault String :=
  if spec.isEmpty then .ok x.text
  else do
    let spec ← Spec.ofChars "float" none .right spec
    return String.ofList (← writeDouble spec "float" x)

/-- The character of a code point. -/
def charOfCode (i : Int) : Except FormatFault Char :=
  if i < -(Number.maxSigned : Int) - 1 ∨ Number.maxSigned < i then .error .charTooLarge
  else if i < 0 ∨ 0x110000 ≤ i then .error .charOutOfRange
  else .ok (Char.ofNat i.toNat)

/-- A whole number as a character. -/
def writeChar (spec : Spec) (i : Int) : Except FormatFault (List Char) :=
  if spec.sign.isSome then .error .signInChar
  else if spec.alternate then .error .alternateInChar
  else (charOfCode i).map fun c => placeNumber spec none false [] [] [c]

/-- The base of a code and the mark of its alternate form. -/
def baseOf? (code : Char) : Option (Nat × List Char) :=
  if code = 'd' ∨ code = 'n' then some (10, [])
  else if code = 'b' then some (2, ['0', 'b'])
  else if code = 'o' then some (8, ['0', 'o'])
  else if code = 'x' ∨ code = 'X' then some (16, ['0', 'x'])
  else none

/-- A whole number in a base. -/
def writeInt (spec : Spec) (code : Char) (base : Nat) (mark : List Char) (i : Int) : List Char :=
  let capital (cs : List Char) := if code = 'X' then cs.map Char.toUpper else cs
  placeNumber spec (separatorFor spec) (i < 0) (if spec.alternate then capital mark else [])
    (capital (Number.digits base i.natAbs)) []

/-- A whole number under a specification. The codes of fractions apply to the nearest number of
double precision. -/
def presentInt (typeName : String) (i : Int) (spec : List Char) : Except FormatFault String := do
  let spec ← Spec.ofChars typeName (some 'd') .right spec
  let code := spec.code.getD 'd'
  if code = 'c' ∨ (baseOf? code).isSome then
    if spec.precision.isSome then .error .precisionInInt
    else if spec.plainZero then .error .zeroInInt
    else match baseOf? code with
      | none => return String.ofList (← writeChar spec i)
      | some (base, mark) => return String.ofList (writeInt spec code base mark i)
  else if ['e', 'E', 'f', 'F', 'g', 'G', '%'].contains code then
    match Double.ofInt i with
    | .finite s m e => return String.ofList (← writeDouble spec typeName (.finite s m e))
    | _ => .error .intTooLarge
  else .error (.unknownCode code typeName)

/-- A complex number under a specification: both parts by the same rules, in one width. -/
def presentComplex (re im : Double) (spec : List Char) : Except FormatFault String :=
  if spec.isEmpty then .ok (Value.complexText re im)
  else do
    let spec ← Spec.ofChars "complex" none .right spec
    let code := spec.code.getD 'r'
    if spec.code.isSome && !(['e', 'E', 'f', 'F', 'g', 'G', 'n'].contains code) then
      .error (.unknownCode code "complex")
    else if spec.fill = '0' then .error .paddingInComplex
    else if spec.align = .inner then .error .innerInComplex
    else
      let part : Spec := { spec with fill := ' ', align := .left, width := none }
      let skipsReal := spec.code.isNone && re.isZero && !re.isNegative
      let real := if skipsReal then [] else spellPart part re
      let imag := spellPart (if skipsReal then part else { part with sign := some '+' }) im
      let body := real ++ imag ++ ['j']
      return String.ofList (spec.place (if spec.code.isNone && !skipsReal then
        '(' :: body ++ [')'] else body))
where
  /-- One part of a complex number. -/
  spellPart (spec : Spec) (x : Double) : List Char :=
    let code := spec.code.getD 'r'
    let spelling : Spelling :=
      { keepPoint := spec.alternate, plainZero := spec.plainZero, capitals := code.isUpper }
    let form : Form :=
      if spec.code.isNone then (if spec.precision.isSome then .general else .shortest)
      else if code = 'e' ∨ code = 'E' then .exponent
      else if code = 'f' ∨ code = 'F' then .fixed
      else .general
    let cs := x.spell form (spec.precision.getD 6) spelling
    let ds := if cs.head? = some '-' then cs.tail else cs
    placeNumber spec (separatorFor spec) (cs.head? = some '-') [] (ds.takeWhile Char.isDigit)
      (ds.dropWhile Char.isDigit)

/-- A value that is not deferred under a specification. -/
def Value.present (v : Value) (spec : List Char) : Except FormatFault String :=
  match v with
  | .text _ | .sigil _ | .style _ | .group _ | .output _ | .revert _ | .constText _ =>
    presentText v.str spec
  | .bool b => if spec.isEmpty then .ok v.str else presentInt "bool" (if b then 1 else 0) spec
  | .int i => if spec.isEmpty then .ok v.str else presentInt "int" i spec
  | .level l => if spec.isEmpty then .ok v.str else presentInt "LogLevel" l.code spec
  | .float x => presentDouble x spec
  | .complex re im => presentComplex re im spec
  | .moment m => .ok (if spec.isEmpty then m.text else m.format spec)
  | _ =>
    if spec.isEmpty then (v.checkText v.str).mapError .access
    else .error (.unsupportedSpec v.typeName)

end Sgr
