/-!
# Classes of errors

Every failure has a cause, which the modules below describe by types of their own, and a class,
which is what a caller can tell apart without reading the message. Log records show the name of the
class.

## Main definitions

* `ErrorClass` — the classes.
* `ErrorClass.name` — the name of a class, as log records show it.
-/

namespace Sgr

/-- What a caller can tell apart about failures. -/
inductive ErrorClass where
  | grammar
  | unsupportedMode
  | colorRange
  | contentType
  | wrongType
  | wrongValue
  | missingKey
  | outOfRange
  | noAttribute
  | overflow
  | frozen
  | noFile
  | isDirectory
  | system
  | undecodable
  | invalidConfig
  deriving DecidableEq, Repr, Inhabited

/-- The name of a class. -/
def ErrorClass.name : ErrorClass → String
  | grammar => "SgrSyntaxError"
  | unsupportedMode => "UnsupportedModeError"
  | colorRange => "ColorRangeError"
  | contentType => "ContentTypeError"
  | wrongType => "TypeError"
  | wrongValue => "ValueError"
  | missingKey => "KeyError"
  | outOfRange => "IndexError"
  | noAttribute => "AttributeError"
  | overflow => "OverflowError"
  | frozen => "FrozenInstanceError"
  | noFile => "FileNotFoundError"
  | isDirectory => "IsADirectoryError"
  | system => "OSError"
  | undecodable => "UnicodeDecodeError"
  | invalidConfig => "ValidationError"

end Sgr
