import Sgr.Brush.Index

/-!
# What can be wrong with a template

A template fails for a malformed brace, for a field that names no argument, for a part that an
argument does not have, or for a format specification that does not fit the argument. A step into a
brush reads sigils, and one into a family reads a colour. A deferred text whose parts were replaced
may have no template or no arguments.

## Main definitions

* `FormatFault` — the causes.
* `FormatFault.errorClass`, `FormatFault.message` — the class and the text of a cause.
-/

namespace Sgr

/-- Why a template could not be filled. -/
inductive FormatFault where
  | loneOpen
  | loneClose
  | openInName
  | unclosedField
  | noConversion
  | noColon
  | unmatchedOpen
  | tooManyDigits
  | toAutomatic
  | toManual
  | emptyStep
  | afterBracket
  | unclosedBracket
  | nestedTooDeep
  | position (index : Nat)
  | missing (name : String)
  | access (e : AccessError)
  | bracket (e : BracketError)
  | noTemplate (typeName : String)
  | notIterable (typeName : String)
  | notMapping (typeName : String)
  | unknownConversion (c : Char)
  | missingPrecision
  | badSpec (spec typeName : String)
  | bothSeparators
  | separatorWith (separator code : Char)
  | unknownCode (code : Char) (typeName : String)
  | signInText
  | spaceInText
  | zeroInText
  | alternateInText
  | innerInText
  | precisionInInt
  | zeroInInt
  | signInChar
  | alternateInChar
  | intTooLarge
  | charTooLarge
  | charOutOfRange
  | paddingInComplex
  | innerInComplex
  | unsupportedSpec (typeName : String)
  deriving Inhabited

namespace FormatFault

/-- The class of a fault. Most are wrong values. -/
def errorClass : FormatFault → ErrorClass
  | missing _ => .missingKey
  | position _ => .outOfRange
  | access e => e.errorClass
  | bracket e => e.errorClass
  | notIterable _ | notMapping _ | unsupportedSpec _ => .wrongType
  | noTemplate _ => .noAttribute
  | intTooLarge | charTooLarge | charOutOfRange => .overflow
  | _ => .wrongValue

/-- A character in a message: itself if it is visible ASCII, and otherwise its code. -/
def codeText (c : Char) : String :=
  if 32 < c.toNat ∧ c.toNat < 128 then c.toString
  else "\\x" ++ String.ofList (Number.digits 16 c.toNat)

/-- The text of a fault. -/
def message : FormatFault → String
  | loneOpen => "Single '\x7b' encountered in format string"
  | loneClose => "Single '\x7d' encountered in format string"
  | openInName => "unexpected '\x7b' in field name"
  | unclosedField => "expected '\x7d' before end of string"
  | noConversion => "end of string while looking for conversion specifier"
  | noColon => "expected ':' after conversion specifier"
  | unmatchedOpen => "unmatched '\x7b' in format spec"
  | tooManyDigits => "Too many decimal digits in format string"
  | toAutomatic =>
    "cannot switch from manual field specification to automatic field numbering"
  | toManual => "cannot switch from automatic field numbering to manual field specification"
  | emptyStep => "Empty attribute in format string"
  | afterBracket => "Only '.' or '[' may follow ']' in format field specifier"
  | unclosedBracket => "Missing ']' in format string"
  | nestedTooDeep => "Max string recursion exceeded"
  | position index =>
    "Replacement index " ++ Number.decimal index ++ " out of range for positional args tuple"
  | missing name => Text.quote name
  | access e => e.message
  | bracket e => e.message
  | noTemplate typeName => "'" ++ typeName ++ "' object has no attribute 'format'"
  | notIterable typeName => "str.format() argument after * must be an iterable, not " ++ typeName
  | notMapping typeName => "str.format() argument after ** must be a mapping, not " ++ typeName
  | unknownConversion c =>
    "Unknown conversion specifier " ++
      (if c.toNat = 127 then "\\x7f" else codeText c)
  | missingPrecision => "Format specifier missing precision"
  | badSpec spec typeName =>
    "Invalid format specifier '" ++ spec ++ "' for object of type '" ++ typeName ++ "'"
  | bothSeparators => "Cannot specify both ',' and '_'."
  | separatorWith separator code =>
    "Cannot specify '" ++ separator.toString ++ "' with '" ++ codeText code ++ "'."
  | unknownCode code typeName =>
    "Unknown format code '" ++ codeText code ++ "' for object of type '" ++ typeName ++ "'"
  | signInText => "Sign not allowed in string format specifier"
  | spaceInText => "Space not allowed in string format specifier"
  | zeroInText => "Negative zero coercion (z) not allowed in string format specifier"
  | alternateInText => "Alternate form (#) not allowed in string format specifier"
  | innerInText => "'=' alignment not allowed in string format specifier"
  | precisionInInt => "Precision not allowed in integer format specifier"
  | zeroInInt => "Negative zero coercion (z) not allowed in integer format specifier"
  | signInChar => "Sign not allowed with integer format specifier 'c'"
  | alternateInChar => "Alternate form (#) not allowed with integer format specifier 'c'"
  | intTooLarge => "int too large to convert to float"
  | charTooLarge => "Python int too large to convert to C long"
  | charOutOfRange => "%c arg not in range(0x110000)"
  | paddingInComplex => "Zero padding is not allowed in complex format specifier"
  | innerInComplex => "'=' alignment flag is not allowed in complex format specifier"
  | unsupportedSpec typeName => "unsupported format string passed to " ++ typeName ++ ".__format__"

/-- The value that a fault is about, where it names one. -/
def subject? : FormatFault → Option Value
  | bracket e => e.subject?
  | _ => none

end FormatFault

end Sgr
